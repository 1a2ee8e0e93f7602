import ClusterPower.Http.IpAddress
import ClusterPower.Text.Blank
import ClusterPower.Text.Integer
import ClusterPower.Text.Utf8

/-!
Web addresses. `Http.Address.parse?` splits an address into host, port and the
path with its query, in the form in which they go over the wire: the host in
lower case, dot segments resolved, other than plain characters percent-encoded,
the fragment left out.
-/

namespace ClusterPower.Http

structure Address where
  scheme : String
  /-- The host, with the port unless it is the scheme's own. -/
  host : String
  path : String
deriving DecidableEq, Repr, Inhabited

namespace Address

/-! ## Percent encoding -/

def isEncoded (character : Char) : Bool :=
  character.toNat < 0x21 || 0x7E < character.toNat ||
    ['"', '#', '<', '>'].contains character

def isEncodedInPath (character : Char) : Bool :=
  isEncoded character || ['?', '\x60', '\x7b', '\x7d'].contains character

def isEncodedInQuery (character : Char) : Bool :=
  isEncoded character || character == '\''

def hexDigit (value : Nat) : Char :=
  "0123456789ABCDEF".toList.getD value '0'

def percentEncode (byte : UInt8) : List Char :=
  ['%', hexDigit (byte.toNat / 16), hexDigit (byte.toNat % 16)]

def encode (isEncoded : Char → Bool) (characters : List Char) : List Char :=
  characters.flatMap fun character =>
    if isEncoded character then (String.utf8EncodeChar character).flatMap percentEncode
    else [character]

/-! ## Hosts -/

/-- The bytes of characters, of which each may be written as a percent sign with two
digits. -/
def percentDecode : List Char → Bytes
  | '%' :: high :: low :: rest =>
    match IpAddress.digit? 16 high, IpAddress.digit? 16 low with
    | some high, some low => UInt8.ofNat (high * 16 + low) :: percentDecode rest
    | _, _ => 0x25 :: percentDecode (high :: low :: rest)
  | character :: rest => String.utf8EncodeChar character ++ percentDecode rest
  | [] => []

/-- Characters that no name of a host has. Names outside ASCII have no form of
their own here. -/
def isForbiddenInHost (character : Char) : Bool :=
  character.toNat < 0x21 || 0x7E < character.toNat ||
    ['#', '/', ':', '<', '>', '?', '@', '[', '\\', ']', '^', '|', '%'].contains character

def hostNumber? (characters : List Char) : Option Nat :=
  match characters with
  | ['0', 'x'] | ['0', 'X'] => some 0
  | characters => IpAddress.basedNumber? characters

def withoutFinalDot (name : List Char) : List Char :=
  match name.reverse with
  | '.' :: rest => if rest.isEmpty then name else rest.reverse
  | _ => name

def endsInNumber (name : List Char) : Bool :=
  let last := (name.reverse.takeWhile (· != '.')).reverse
  (!last.isEmpty && last.all Char.isDigit) || (hostNumber? last).isSome

def name? (name : List Char) : Option (List Char) :=
  if name.isEmpty || name.any isForbiddenInHost then none
  else
    let whole := withoutFinalDot name
    if endsInNumber whole then
      (IpAddress.looseQuad? hostNumber? whole).map fun bits =>
        (IpAddress.quadText bits).toList
    else some (name.map Char.toLower)

def host? (characters : List Char) : Option (List Char) :=
  match characters with
  | '[' :: rest =>
    if rest.getLast? = some ']' then
      (IpAddress.eightGroups.readAll? rest.dropLast).map fun groups =>
        ('[' :: (IpAddress.compressed groups).toList) ++ [']']
    else none
  | _ => name? (Text.lossy (percentDecode characters)).toList

example : (host? "0x7F.1".toList).map String.ofList = some "127.0.0.1" := by decide +kernel

example : (host? "%42MC".toList).map String.ofList = some "bmc" := by decide +kernel

/-! ## Ports -/

def ownPort (scheme : String) : Nat :=
  if scheme = "https" then 443 else 80

def port? (scheme : String) (characters : List Char) : Option (List Char) :=
  if characters.isEmpty then some []
  else
    match Text.digitsValue? characters with
    | some port =>
      if port = ownPort scheme then some []
      else if port < Word.bound 16 then some (':' :: Nat.toDigits 10 port)
      else none
    | none => none

/-- Split an authority into host and port: the port follows the last colon
outside brackets. -/
def splitPort (authority : List Char) : List Char × List Char :=
  let behind := authority.reverse.takeWhile fun character => character != ':' && character != ']'
  match authority.reverse.drop behind.length with
  | ':' :: host => (host.reverse, behind.reverse)
  | _ => (authority, [])

/-! ## Paths -/

def isSlash (character : Char) : Bool :=
  character == '/' || character == '\\'

def isCurrent (segment : List Char) : Bool :=
  [".", "%2e"].contains (String.ofList (segment.map Char.toLower))

def isUpward (segment : List Char) : Bool :=
  ["..", ".%2e", "%2e.", "%2e%2e"].contains (String.ofList (segment.map Char.toLower))

def resolve (kept : List (List Char)) : List (List Char) → List (List Char)
  | [] => kept.reverse
  | segment :: rest =>
    if isUpward segment then
      resolve (if rest.isEmpty then [] :: kept.drop 1 else kept.drop 1) rest
    else if isCurrent segment then resolve (if rest.isEmpty then [] :: kept else kept) rest
    else resolve (segment :: kept) rest

def normalPath (characters : List Char) : List Char :=
  let characters :=
    match characters with
    | '/' :: rest => rest
    | '\\' :: rest => rest
    | _ => characters
  (resolve [] (characters.splitOnP isSlash)).flatMap fun segment =>
    '/' :: encode isEncodedInPath segment

def normalQuery (characters : List Char) : List Char :=
  match characters with
  | '?' :: rest => '?' :: encode isEncodedInQuery rest
  | _ => []

/-! ## Whole addresses -/

def endsAuthority (character : Char) : Bool :=
  isSlash character || character == '?' || character == '#'

def isPadding (character : Char) : Bool :=
  character.toNat ≤ 0x20

def significant (text : String) : List Char :=
  (Text.strip isPadding text.toList).filter fun character =>
    !(['\t', '\n', '\r'].contains character)

/-- The parts of an address; none if it is no address of a web server. -/
def parse? (text : String) : Option Address := do
  let characters := significant text
  let scheme := characters.takeWhile (· != ':')
  let scheme := String.ofList (scheme.map Char.toLower)
  if scheme != "http" && scheme != "https" then none
  else
    let rest := ((characters.dropWhile (· != ':')).drop 1).dropWhile isSlash
    let authority := rest.takeWhile (!endsAuthority ·)
    let behind := rest.drop authority.length
    let named := (authority.reverse.takeWhile (· != '@')).reverse
    let (hostPart, portPart) := splitPort named
    let host ← host? hostPart
    let port ← port? scheme portPart
    let pathPart := behind.takeWhile fun character => character != '?' && character != '#'
    let queryPart := (behind.drop pathPart.length).takeWhile (· != '#')
    some {
      scheme
      host := String.ofList (host ++ port)
      path := String.ofList (normalPath pathPart ++ normalQuery queryPart) }

example : parse? "http://BMC:80/a b/../%41?x y#z" =
    some ⟨"http", "bmc", "/%41?x%20y"⟩ := by decide +kernel

example : parse? "http://bad host/" = none := by decide +kernel

end Address

end ClusterPower.Http
