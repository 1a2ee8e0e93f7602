import ClusterPower.Text.Utf8

/-!
Certificates as nested elements, each of a tag, a length in as few bytes as it
needs, and a content. `Certificate.isWellFormed` checks the form, not what the
certificate says about whom.
-/

namespace ClusterPower.Http.Certificate

/-! ## Elements -/

abbrev Reading := StateT Bytes Option

def contentBound : Nat := 0xFFFF

/-- A length and the bytes behind it. From 128 on it stands in one or two bytes
behind the one that counts them. -/
def length? : Bytes → Option (Nat × Bytes)
  | 0x81 :: length :: rest => if 0x80 ≤ length then some (length.toNat, rest) else none
  | 0x82 :: high :: low :: rest =>
    let length := high.toNat * 0x100 + low.toNat
    if 0x100 ≤ length && length < contentBound then some (length, rest) else none
  | length :: rest => if length < 0x80 then some (length.toNat, rest) else none
  | [] => none

def content (tag : UInt8) : Reading Bytes := fun bytes => do
  let (length, rest) ← if bytes.head? = some tag then length? bytes.tail else none
  if length ≤ rest.length then some (rest.take length, rest.drop length) else none

def whole {Value : Type} (reading : Reading Value) (bytes : Bytes) : Option Value :=
  match reading bytes with
  | some (value, []) => some value
  | _ => none

def within {Value : Type} (tag : UInt8) (reading : Reading Value) : Reading Value := do
  let inner ← content tag
  StateT.lift (whole reading inner)

/-! ## Tags -/

def boolean : UInt8 := 0x01

def integer : UInt8 := 0x02

def bitString : UInt8 := 0x03

def octetString : UInt8 := 0x04

def objectName : UInt8 := 0x06

def sequence : UInt8 := 0x30

def versionTag : UInt8 := 0xA0

def extensionsTag : UInt8 := 0xA3

/-! ## Extensions -/

structure Extension where
  name : Bytes
  critical : Bool
  value : Bytes
deriving DecidableEq, Repr

def flag : Reading Bool := do
  if (← get).head? = some boolean then
    match ← content boolean with
    | [0xFF] => pure true
    | [0x00] => pure false
    | _ => failure
  else pure false

def extension : Reading Extension :=
  within sequence do
    let name ← content objectName
    let critical ← flag
    let value ← content octetString
    return { name, critical, value }

def extensionsToEnd : (most : Nat) → Reading (List Extension)
  | 0 => failure
  | most + 1 => do
    let first ← extension
    if (← get).isEmpty then return [first] else return first :: (← extensionsToEnd most)

def extensions : Reading (List Extension) :=
  within extensionsTag <| within sequence do
    extensionsToEnd (← get).length

namespace Extension

def keyUsage : UInt8 := 15

/-- Key usage, other names of the subject, basic constraints, constraints on names,
and extended key usage. -/
def understood : List UInt8 := [keyUsage, 17, 19, 30, 37]

def number? (extension : Extension) : Option UInt8 :=
  match extension.name with
  | [0x55, 0x1D, number] => if understood.contains number then some number else none
  | _ => none

/-- An extension that is not understood must not be critical. -/
def isAccepted (extension : Extension) : Bool :=
  match extension.number? with
  | some number => number == keyUsage || (whole (content sequence) extension.value).isSome
  | none => !extension.critical

end Extension

def areAccepted (extensions : List Extension) : Bool :=
  extensions.all Extension.isAccepted && (extensions.filterMap Extension.number?).Nodup

/-! ## Whole certificates -/

/-- The serial number, and five sequences: the algorithm of the signature, the issuer,
the dates, the subject and its key. Gives the algorithm. -/
def particulars : Reading Bytes := do
  let _ ← content integer
  let algorithm ← content sequence
  let _ ← content sequence
  let _ ← content sequence
  let _ ← content sequence
  let _ ← content sequence
  return algorithm

def thirdVersion (algorithm : Bytes) : Reading Unit := do
  let version ← within versionTag (content integer)
  let named ← particulars
  let found ← if (← get).isEmpty then pure [] else extensions
  if version = [2] ∧ named = algorithm ∧ areAccepted found then pure () else failure

def signed : Reading (Bytes × Bytes) :=
  within sequence do
    let body ← content sequence
    let algorithm ← content sequence
    let signature ← content bitString
    if signature.head? = some 0 then return (body, algorithm) else failure

def isWellFormed (bytes : Bytes) : Bool :=
  match whole signed bytes with
  | some (body, algorithm) =>
    (whole (thirdVersion algorithm) body).isSome || (whole particulars body).isSome
  | none => false

example :
    isWellFormed [0x30, 0x18,
      0x30, 0x0F, 0x02, 0x01, 0x01, 0x30, 0x02, 0x05, 0x00,
        0x30, 0x00, 0x30, 0x00, 0x30, 0x00, 0x30, 0x00,
      0x30, 0x02, 0x05, 0x00, 0x03, 0x01, 0x00] = true := by decide +kernel

example : isWellFormed [0x30, 0x00] = false := by decide +kernel

end ClusterPower.Http.Certificate
