import ClusterPower.Json.Basic

/-!
Writing JSON texts. The compact form has no blanks, the indented form two
spaces for each level. Members are written in the order in which they are held.
-/

namespace ClusterPower.Json

/-! ## Texts -/

def hexDigits : List Char := "0123456789abcdef".toList

/-- A character inside quotes. Only quotes, backslashes and characters below
U+0020 are escaped, the latter by a letter where there is one. -/
def escape (character : Char) : List Char :=
  match character with
  | '"' => ['\\', '"']
  | '\\' => ['\\', '\\']
  | '\x08' => ['\\', 'b']
  | '\x0c' => ['\\', 'f']
  | '\n' => ['\\', 'n']
  | '\r' => ['\\', 'r']
  | '\t' => ['\\', 't']
  | _ =>
    if character.toNat < 0x20 then
      ['\\', 'u', '0', '0', hexDigits.getD (character.toNat / 16) '0',
        hexDigits.getD (character.toNat % 16) '0']
    else [character]

def quote (content : String) : String :=
  String.ofList ('"' :: content.toList.flatMap escape ++ ['"'])

example : quote "a\"\x01/é" = "\"a\\\"\\u0001/é\"" := by decide +kernel

/-! ## Numbers -/

/-- Doubles are written positionally when their first digit is at one of the
places from here … -/
def lowestPlace : Int := -5

/-- … to here, and with an exponent otherwise. -/
def highestPlace : Int := 15

def digitCharacters (digits : List Nat) : List Char :=
  digits.map Nat.digitChar

def positional (decimal : Magnitude.Decimal) : List Char :=
  let digits := digitCharacters decimal.digits
  if decimal.exponent < 0 then
    '0' :: '.' :: List.replicate (-decimal.exponent - 1).toNat '0' ++ digits
  else
    let places := decimal.exponent.toNat + 1
    let whole := digits.take places
    let fraction := digits.drop places
    whole ++ List.replicate (places - whole.length) '0' ++
      '.' :: (if fraction.isEmpty then ['0'] else fraction)

def scientific (decimal : Magnitude.Decimal) : List Char :=
  let fraction :=
    match digitCharacters (decimal.digits.drop 1) with
    | [] => []
    | digits => '.' :: digits
  let sign := if decimal.exponent < 0 then '-' else '+'
  digitCharacters (decimal.digits.take 1) ++ fraction ++
    'e' :: sign :: Nat.toDigits 10 decimal.exponent.natAbs

def realText (value : Binary64) : String :=
  let decimal := value.magnitude.shortest
  let digits :=
    if lowestPlace ≤ decimal.exponent ∧ decimal.exponent ≤ highestPlace then
      positional decimal
    else scientific decimal
  String.ofList (if value.negative then '-' :: digits else digits)

example : realText ⟨true, .zero⟩ = "-0.0" := by decide +kernel

example : realText ⟨false, 1, 0⟩ = "1.0" := by decide +kernel

example : realText ⟨false, Nat.pow 5 21, 21⟩ = "1e+21" := by decide +kernel

/-! ## Values -/

mutual

def compact : Json → String
  | .null => "null"
  | .boolean value => if value then "true" else "false"
  | .integer value => toString value
  | .real value => realText value
  | .text value => quote value
  | .array items => "[" ++ ",".intercalate (compactItems items) ++ "]"
  | .object members => "\x7b" ++ ",".intercalate (compactMembers members) ++ "\x7d"
  | .unreadable => "null"

def compactItems : List Json → List String
  | [] => []
  | item :: rest => compact item :: compactItems rest

def compactMembers : List (String × Json) → List String
  | [] => []
  | (name, value) :: rest => (quote name ++ ":" ++ compact value) :: compactMembers rest

end

def newline (level : Nat) : String :=
  String.ofList ('\n' :: List.replicate (2 * level) ' ')

def block (opening closing : String) (level : Nat) (parts : List String) : String :=
  if parts.isEmpty then opening ++ closing
  else
    opening ++ newline (level + 1) ++ ("," ++ newline (level + 1)).intercalate parts ++
      newline level ++ closing

mutual

def indented (level : Nat) : Json → String
  | .array items => block "[" "]" level (indentedItems (level + 1) items)
  | .object members => block "\x7b" "\x7d" level (indentedMembers (level + 1) members)
  | .null => "null"
  | .boolean value => if value then "true" else "false"
  | .integer value => toString value
  | .real value => realText value
  | .text value => quote value
  | .unreadable => "null"

def indentedItems (level : Nat) : List Json → List String
  | [] => []
  | item :: rest => indented level item :: indentedItems level rest

def indentedMembers (level : Nat) : List (String × Json) → List String
  | [] => []
  | (name, value) :: rest =>
    (quote name ++ ": " ++ indented level value) :: indentedMembers level rest

end

end ClusterPower.Json
