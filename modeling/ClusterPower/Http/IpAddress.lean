import ClusterPower.Text.Reader
import ClusterPower.Word

/-!
Numeric addresses of hosts. `IpAddress.quad` and `IpAddress.eightGroups` read the
strict forms; `IpAddress.looseQuad?` takes one to four numbers, in whatever bases
a number reader allows.
-/

namespace ClusterPower.Http

open Text (Reader)

/-- An address of the fourth version as one number, or of the sixth as eight
groups and the number of a zone. -/
inductive IpAddress where
  | v4 (bits : Nat)
  | v6 (groups : List Nat) (zone : Nat)
deriving DecidableEq, Repr, Inhabited

namespace IpAddress

/-! ## Digits -/

def digit? (base : Nat) (character : Char) : Option Nat :=
  let value :=
    if character.isDigit then character.toNat - '0'.toNat
    else if 'a' ≤ character ∧ character ≤ 'f' then character.toNat - 'a'.toNat + 10
    else if 'A' ≤ character ∧ character ≤ 'F' then character.toNat - 'A'.toNat + 10
    else base
  if value < base then some value else none

def isDigitOf (base : Nat) (character : Char) : Bool :=
  (digit? base character).isSome

def valueOf (base : Nat) (digits : List Char) : Nat :=
  digits.foldl (fun value character => value * base + (digit? base character).getD 0) 0

def number (base bound : Nat) : Reader Nat := do
  let value := valueOf base (← Reader.takeSome (isDigitOf base))
  if value < bound then pure value else failure

/-! ## Dotted quads -/

def octet : Reader Nat := do
  let digits ← Reader.takeSome Char.isDigit
  let hasLeadingZero := digits.head? = some '0' ∧ 1 < digits.length
  let value := valueOf 10 digits
  if hasLeadingZero ∨ 256 ≤ value then failure else pure value

def joinOctets (octets : List Nat) : Nat :=
  octets.foldl (fun bits octet => bits * 256 + octet) 0

def quad : Reader Nat := do
  let first ← octet
  let others ← Reader.many (do Reader.character '.'; octet) 3
  if others.length = 3 then pure (joinOctets (first :: others)) else failure

/-! ## Groups -/

def group : Reader Nat := do
  let digits ← Reader.takeSome (isDigitOf 16)
  if digits.length ≤ 4 then pure (valueOf 16 digits) else failure

/-- Up to `limit` groups with a colon between two of them. A dotted quad may stand
for the last two. Also tells whether one does. -/
def groups (isFirst : Bool) : (limit : Nat) → Reader (List Nat × Bool)
  | 0 => pure ([], false)
  | limit + 1 => do
    let separated {Value : Type} (reader : Reader Value) : Reader Value := do
      if !isFirst then Reader.character ':'
      reader
    let bits ← if 1 ≤ limit then Reader.optional (separated quad) else pure none
    match bits with
    | some bits => return ([bits / 0x10000, bits % 0x10000], true)
    | none =>
      match ← Reader.optional (separated group) with
      | none => return ([], false)
      | some value =>
        let (rest, endsInQuad) ← groups false limit
        return (value :: rest, endsInQuad)

def eightGroups : Reader (List Nat) := do
  let (front, endsInQuad) ← groups true 8
  if front.length = 8 then return front
  else if endsInQuad then failure
  else
    Reader.literal "::"
    let (back, _) ← groups true (7 - front.length)
    return front ++ List.replicate (8 - front.length - back.length) 0 ++ back

/-! ## Texts -/

def quadText (bits : Nat) : String :=
  ".".intercalate ([bits / 0x1000000, bits / 0x10000 % 0x100, bits / 0x100 % 0x100,
    bits % 0x100].map toString)

def zerosAhead (groups : List Nat) : Nat :=
  (groups.takeWhile (· == 0)).length

def longestZeros (groups : List Nat) : Nat × Nat :=
  (List.range groups.length).foldl (fun (place, length) index =>
    let here := zerosAhead (groups.drop index)
    if length < here then (index, here) else (place, length)) (0, 0)

def groupsText (groups : List Nat) : String :=
  ":".intercalate (groups.map fun group => String.ofList (Nat.toDigits 16 group))

def compressed (groups : List Nat) : String :=
  let (place, length) := longestZeros groups
  if 1 < length then
    groupsText (groups.take place) ++ "::" ++ groupsText (groups.drop (place + length))
  else groupsText groups

def v6Text (groups : List Nat) : String :=
  match groups with
  | [0, 0, 0, 0, 0, 0xFFFF, high, low] => "::ffff:" ++ quadText (high * 0x10000 + low)
  | groups => compressed groups

example : v6Text [0x2001, 0, 0, 1, 0, 0, 0, 2] = "2001:0:0:1::2" := by decide +kernel

/-! ## Loose forms -/

def digitsOfBase? (base : Nat) (digits : List Char) : Option Nat :=
  if !digits.isEmpty && digits.all (isDigitOf base) then some (valueOf base digits) else none

def basedNumber? (characters : List Char) : Option Nat :=
  match characters with
  | '0' :: 'x' :: digits | '0' :: 'X' :: digits => digitsOfBase? 16 digits
  | '0' :: next :: digits => digitsOfBase? 8 (next :: digits)
  | digits => digitsOfBase? 10 digits

def joinLoosely? (numbers : List Nat) : Option Nat :=
  let leading := numbers.dropLast
  let room := Nat.pow 256 (4 - leading.length)
  match numbers.getLast? with
  | some last =>
    if 4 < numbers.length || leading.any (256 ≤ ·) || room ≤ last then none
    else some (joinOctets leading * room + last)
  | none => none

def looseQuad? (number? : List Char → Option Nat) (host : List Char) : Option Nat :=
  ((host.splitOnP (· == '.')).mapM number?).bind joinLoosely?

example : looseQuad? basedNumber? "127.0x1".toList = some 0x7F000001 := by decide +kernel

example : looseQuad? basedNumber? "127..1".toList = none := by decide +kernel

end IpAddress

end ClusterPower.Http
