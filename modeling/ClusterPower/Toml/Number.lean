import ClusterPower.Toml.Text
import ClusterPower.Word

/-!
Numbers and dates. Integers are signed 64-bit words. Of a float and of a date only
the form is checked, because nothing here uses their values; a float must still
not be beyond the largest double.
-/

namespace ClusterPower.Toml

open ClusterPower.Text (Reader)

/-! ## Digits -/

def grouped (accepts : Char → Bool) : Reader (List Char) := do
  let first ← Reader.satisfying accepts
  let next : Reader Char :=
    Reader.satisfying accepts <|> (do
      Reader.character '_'
      Reader.satisfying accepts)
  return first :: (← Reader.many next (← Reader.remaining))

def sign : Reader Bool := do
  match ← Reader.optional (Reader.satisfying fun character => "+-".toList.contains character) with
  | some '-' => pure true
  | _ => pure false

def wholeDigits : Reader (List Char) := do
  if (← Reader.peek?) = some '0' then
    return [← Reader.satisfying (· == '0')]
  else grouped Char.isDigit

/-! ## Integers -/

def inWord (value : Int) : Reader Int :=
  if Word.holdsSigned 64 value then pure value else failure

def bases : List (String × Nat × (Char → Bool)) :=
  [("0x", 16, isHexDigit), ("0o", 8, fun digit => '0' ≤ digit && digit ≤ '7'),
    ("0b", 2, fun digit => digit == '0' || digit == '1')]

def markedInteger (mark : String) (base : Nat) (accepts : Char → Bool) : Reader Int := do
  Reader.literal mark
  let digits ← grouped accepts
  inWord (numberOf base digits)

def decimalInteger : Reader Int := do
  let negative ← sign
  let value : Int := numberOf 10 (← wholeDigits)
  inWord (if negative then -value else value)

def integer : Reader Int :=
  bases.foldr (fun (mark, base, accepts) others => markedInteger mark base accepts <|> others)
    decimalInteger

example : integer.readAll? "-9_0".toList = some (-90) := by decide +kernel

example : integer.readAll? "007".toList = none := by decide +kernel

/-! ## Floats -/

def infinityBound : Nat := Nat.pow 2 1024 - Nat.pow 2 970

/-- Scales of ten beyond which a number is too large however small its digits, or
too small to matter. -/
def decisiveScale : Nat := 400

def overflows (significand : Nat) (scale : Int) : Bool :=
  let places : Int := (Nat.toDigits 10 significand).length
  if significand = 0 ∨ scale + places < -(decisiveScale : Int) then false
  else if (decisiveScale : Int) < scale + places then true
  else if 0 ≤ scale then infinityBound ≤ significand * Nat.pow 10 scale.toNat
  else infinityBound * Nat.pow 10 (-scale).toNat ≤ significand

def exponent : Reader Int := do
  let _ ← Reader.satisfying fun character => character == 'e' || character == 'E'
  let negative ← sign
  let value : Int := numberOf 10 (← grouped Char.isDigit)
  return if negative then -value else value

def fraction : Reader (List Char) := do
  Reader.character '.'
  grouped Char.isDigit

def finiteFloat : Reader Unit := do
  let negative ← sign
  let whole ← wholeDigits
  let decimals ← Reader.optional fraction
  let scale ← Reader.optional exponent
  if decimals.isNone && scale.isNone then failure
  else
    let decimals := decimals.getD []
    if !negative && overflows (numberOf 10 (whole ++ decimals))
        (scale.getD 0 - decimals.length) then failure
    else pure ()

def specialFloat : Reader Unit := do
  let _ ← sign
  Reader.literal "inf" <|> Reader.literal "nan"

def float : Reader Unit := finiteFloat <|> specialFloat

/-! ## Dates and times -/

def boundedDigits (length low high : Nat) : Reader Nat := do
  let value := numberOf 10 (← Reader.takeExactly length Char.isDigit)
  if low ≤ value ∧ value ≤ high then pure value else failure

def isLeapYear (year : Nat) : Bool :=
  year % 4 == 0 && (year % 100 != 0 || year % 400 == 0)

def daysIn (year month : Nat) : Nat :=
  if month = 2 then if isLeapYear year then 29 else 28
  else if [4, 6, 9, 11].contains month then 30
  else 31

def date : Reader Unit := do
  let year ← boundedDigits 4 0 9999
  Reader.character '-'
  let month ← boundedDigits 2 1 12
  Reader.character '-'
  let _ ← boundedDigits 2 1 (daysIn year month)

def time : Reader Unit := do
  let _ ← boundedDigits 2 0 23
  Reader.character ':'
  let _ ← boundedDigits 2 0 59
  Reader.character ':'
  let _ ← boundedDigits 2 0 60
  let _ ← Reader.optional (do
    Reader.character '.'
    Reader.takeSome Char.isDigit)

def offset : Reader Unit := do
  let mark ← Reader.satisfying fun character => "Zz+-".toList.contains character
  if mark.isAlpha then return
  let _ ← boundedDigits 2 0 23
  Reader.character ':'
  let _ ← boundedDigits 2 0 59

def moment : Reader Unit :=
  (do
    date
    let _ ← Reader.optional (do
      let _ ← Reader.satisfying fun character => "Tt ".toList.contains character
      time
      Reader.optional offset)) <|> time

example : (moment.readAll? "2024-02-29T23:59:60.5+01:00".toList).isSome := by decide +kernel

example : (moment.readAll? "2023-02-29".toList).isSome = false := by decide +kernel

end ClusterPower.Toml
