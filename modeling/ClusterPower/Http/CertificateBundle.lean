import ClusterPower.Http.Certificate
import ClusterPower.Text.Base64

/-!
Bundles of certificates to trust, as armoured text: each section stands between a
line that begins it and a line that ends it. Text outside sections and sections of
other kinds are passed over.
-/

namespace ClusterPower.Http.CertificateBundle

/-! ## Lines -/

def isLineEnd (byte : UInt8) : Bool :=
  byte == 0x0A || byte == 0x0D

def lines (bytes : Bytes) : List Bytes :=
  bytes.splitOnP isLineEnd

def space : UInt8 := 0x20

def dash : UInt8 := 0x2D

def trimmed (line : Bytes) : Bytes :=
  (line.reverse.dropWhile (· == space)).reverse

/-! ## Sections -/

def beginMark : Bytes := Text.utf8 "-----BEGIN "

def dashes : Bytes := Text.utf8 "-----"

def endLine (kind : Bytes) : Bytes := Text.utf8 "-----END " ++ kind ++ dashes

/-- The kind of the section that a line begins. It is followed by five dashes, among
which spaces do not count. -/
def beginKind? (line : Bytes) : Option Bytes :=
  let ending := line.reverse.takeWhile fun byte => byte == dash || byte == space
  if ending.count dash = 5 then
    some ((line.take (line.length - (trimmed ending).length)).drop beginMark.length)
  else none

structure Section where
  kind : Bytes
  content : Bytes
deriving DecidableEq, Repr, Inhabited

def decodeLines? (armour : List Bytes) : Option Bytes :=
  Text.Base64.decode? (armour.flatten.map fun byte => Char.ofNat byte.toNat)

/-- The sections in a list of lines. `opened` is the section under way, with its
lines in order; a section that begins inside it takes them over. -/
def sectionsFrom? (opened : Option (Bytes × List Bytes)) :
    List Bytes → Option (List Section)
  | [] => if opened.isSome then none else some []
  | line :: rest =>
    if beginMark.isPrefixOf line then
      (beginKind? line).bind fun kind =>
        sectionsFrom? (some (kind, (opened.map (·.2)).getD [])) rest
    else
      match opened with
      | none => sectionsFrom? none rest
      | some (kind, armour) =>
        if (endLine kind).isPrefixOf line then do
          let content ← decodeLines? armour
          let sections ← sectionsFrom? none rest
          some (⟨kind, content⟩ :: sections)
        else sectionsFrom? (some (kind, armour ++ [trimmed line])) rest

/-! ## Certificates -/

def certificateKind : Bytes := Text.utf8 "CERTIFICATE"

/-- Whether all sections of a bundle can be read and all certificates in it have
the form of one. -/
def isUsable (bundle : Bytes) : Bool :=
  match sectionsFrom? none (lines bundle) with
  | none => false
  | some sections =>
    (sections.filter (·.kind == certificateKind)).all fun entry =>
      Certificate.isWellFormed entry.content

example : isUsable (Text.utf8 "no armour") = true := by decide +kernel

example : isUsable (Text.utf8 "-----BEGIN CERTIFICATE-----\n@@\n-----END CERTIFICATE-----") =
    false := by decide +kernel

end ClusterPower.Http.CertificateBundle
