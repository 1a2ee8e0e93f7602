import ClusterPower.Toml.Layout

/-!
Quoted texts of four kinds: basic ones with escapes and literal ones without,
each on one line or on several. A line end inside a text is a line feed.
-/

namespace ClusterPower.Toml

open ClusterPower.Text (Reader)

/-! ## Escapes -/

def isHexDigit (character : Char) : Bool :=
  character.isDigit || ('a' ≤ character && character ≤ 'f') ||
    ('A' ≤ character && character ≤ 'F')

def digitValue (character : Char) : Nat :=
  if character.isDigit then character.toNat - '0'.toNat
  else if 'a' ≤ character then character.toNat - 'a'.toNat + 10
  else character.toNat - 'A'.toNat + 10

def numberOf (base : Nat) (digits : List Char) : Nat :=
  digits.foldl (fun value digit => value * base + digitValue digit) 0

def codePoint (length : Nat) : Reader Char := do
  let digits ← Reader.takeExactly length isHexDigit
  let value := numberOf 16 digits
  if value.isValidChar then pure (Char.ofNat value) else failure

def letterEscapes : List (Char × Char) :=
  [('b', '\x08'), ('f', '\x0c'), ('n', '\n'), ('r', '\r'), ('t', '\t'), ('"', '"'),
    ('\\', '\\')]

def escape : Reader Char := do
  Reader.character '\\'
  let letter ← Reader.satisfying fun _ => true
  if letter = 'u' then codePoint 4
  else if letter = 'U' then codePoint 8
  else Reader.ofOption (letterEscapes.lookup letter)

def continuation : Reader Unit := do
  Reader.character '\\'
  blanks
  newline
  let piece : Reader Unit := (do let _ ← Reader.takeSome isBlank) <|> newline
  let _ ← Reader.many piece (← Reader.remaining)

/-! ## Texts on one line -/

def isBasic (character : Char) : Bool :=
  isPrintable character && character != '"' && character != '\\'

def isLiteral (character : Char) : Bool :=
  isPrintable character && character != '\''

def basicText : Reader String := do
  Reader.character '"'
  let content ← Reader.many (Reader.satisfying isBasic <|> escape) (← Reader.remaining)
  Reader.character '"'
  return String.ofList content

def literalText : Reader String := do
  Reader.character '\''
  let content ← Reader.takeWhile isLiteral
  Reader.character '\''
  return String.ofList content

/-! ## Texts on several lines -/

/-- The end of a text on several lines: three quotes, after at most two that
belong to the text. -/
def closing (quote : Char) : Reader (List Char) := do
  let quotes ← Reader.takeWhile (· == quote)
  if 3 ≤ quotes.length ∧ quotes.length ≤ 5 then pure (List.replicate (quotes.length - 3) quote)
  else failure

def innerQuotes (quote : Char) : Reader (List Char) := do
  let quotes ← Reader.takeSome (· == quote)
  if quotes.length < 3 then pure quotes else failure

/-- A text on several lines with the given pieces. A line end right after the
opening quotes is dropped. -/
def longText (quote : Char) (piece : Reader (List Char)) : Reader String := do
  Reader.literal (String.ofList (List.replicate 3 quote))
  let _ ← Reader.optional newline
  let pieces ← Reader.many (piece <|> innerQuotes quote) (← Reader.remaining)
  let last ← closing quote
  return String.ofList (pieces.flatten ++ last)

def lineFeed : Reader (List Char) := do
  newline
  return ['\n']

def longBasicText : Reader String :=
  longText '"' (
    (do return [← Reader.satisfying isBasic]) <|> (do continuation; return []) <|>
      (do return [← escape]) <|> lineFeed)

def longLiteralText : Reader String :=
  longText '\'' ((do return [← Reader.satisfying isLiteral]) <|> lineFeed)

def text : Reader String :=
  longBasicText <|> basicText <|> longLiteralText <|> literalText

example : text.readAll? "\"\"\"\na\\\n  b\"\"\"\"".toList = some "ab\"" := by decide +kernel

example : text.readAll? "'a\nb'".toList = none := by decide +kernel

end ClusterPower.Toml
