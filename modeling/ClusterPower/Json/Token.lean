import ClusterPower.Json.Basic
import ClusterPower.Text.Utf8
import ClusterPower.Word

/-!
The tokens of a JSON text. A literal is a token with its value; a text token
may denote nothing, when its characters are ill-formed. `Json.tokens?` reads a
whole byte sequence.
-/

namespace ClusterPower.Json

inductive Token where
  | beginArray
  | endArray
  | beginObject
  | endObject
  | comma
  | colon
  /-- Characters between quotes; none if they are ill-formed. -/
  | text (content : Option String)
  | literal (value : Json)
deriving Repr, Inhabited

/-! ## Numbers -/

/-- A number as written. -/
structure Numeral where
  negative : Bool
  whole : List Nat
  fraction : Option (List Nat)
  exponent : Option Int
deriving Repr

namespace Numeral

def largestSignificand : Nat := Word.bound 64 - 1

/-- Append whole digits to a significand while they fit; from the first one that
does not, digits only count for the scale. -/
def appendWhole (significand dropped : Nat) : List Nat → Nat × Nat
  | [] => (significand, dropped)
  | digit :: rest =>
    if dropped = 0 ∧ significand * 10 + digit ≤ largestSignificand then
      appendWhole (significand * 10 + digit) 0 rest
    else appendWhole significand (dropped + 1) rest

def appendFraction (significand used : Nat) : List Nat → Nat × Nat
  | [] => (significand, used)
  | digit :: rest =>
    if significand * 10 + digit ≤ largestSignificand then
      appendFraction (significand * 10 + digit) (used + 1) rest
    else (significand, used)

/-- A number with neither point nor exponent is an integer if a signed or an
unsigned 64-bit word holds it. All others are doubles, and so is minus zero. -/
def value (numeral : Numeral) : Json :=
  let (significand, dropped) := appendWhole 0 0 numeral.whole
  let isInteger := dropped = 0 ∧ numeral.fraction.isNone ∧ numeral.exponent.isNone
  if isInteger ∧ ¬numeral.negative then .integer significand
  else if isInteger ∧ 0 < significand ∧ significand ≤ Word.signedBound 64 then
    .integer (-(significand : Int))
  else
    let (significand, used) := appendFraction significand 0 (numeral.fraction.getD [])
    let scale := (dropped : Int) - used + numeral.exponent.getD 0
    match (Magnitude.ofNat significand).bind (·.scaleByTen scale) with
    | some magnitude => .real ⟨numeral.negative, magnitude⟩
    | none => .unreadable

end Numeral

def isDigit (byte : UInt8) : Bool :=
  0x30 ≤ byte && byte ≤ 0x39

def digits (bytes : Bytes) : List Nat × Bytes :=
  ((bytes.takeWhile isDigit).map fun byte => byte.toNat - 0x30, bytes.dropWhile isDigit)

def digitsValue (digits : List Nat) : Nat :=
  digits.foldl (fun value digit => value * 10 + digit) 0

def dropByte? (byte : UInt8) : Bytes → Option Bytes
  | [] => none
  | first :: rest => if first = byte then some rest else none

def fraction? (bytes : Bytes) : Option (Option (List Nat) × Bytes) :=
  match dropByte? 0x2E bytes with
  | none => some (none, bytes)
  | some rest =>
    let (found, rest) := digits rest
    if found.isEmpty then none else some (some found, rest)

def exponent? (bytes : Bytes) : Option (Option Int × Bytes) :=
  match (dropByte? 0x65 bytes).or (dropByte? 0x45 bytes) with
  | none => some (none, bytes)
  | some rest =>
    let (negative, rest) :=
      match dropByte? 0x2D rest with
      | some rest => (true, rest)
      | none => (false, (dropByte? 0x2B rest).getD rest)
    let (found, rest) := digits rest
    let value : Int := digitsValue found
    if found.isEmpty then none else some (some (if negative then -value else value), rest)

def numeral? (bytes : Bytes) : Option (Numeral × Bytes) := do
  let (negative, bytes) :=
    match dropByte? 0x2D bytes with
    | some rest => (true, rest)
    | none => (false, bytes)
  let (whole, bytes) :=
    match dropByte? 0x30 bytes with
    | some rest => ([0], rest)
    | none => digits bytes
  if whole.isEmpty then none
  else
    let (fraction, bytes) ← fraction? bytes
    let (exponent, bytes) ← exponent? bytes
    some (⟨negative, whole, fraction, exponent⟩, bytes)

/-! ## Texts -/

/-- A part of a quoted text: a byte of the text or an escaped UTF-16 unit. -/
inductive Piece where
  | byte (value : UInt8)
  | unit (value : Nat)
deriving Repr

def hexDigit? (byte : UInt8) : Option Nat :=
  if 0x30 ≤ byte && byte ≤ 0x39 then some (byte.toNat - 0x30)
  else if 0x41 ≤ byte && byte ≤ 0x46 then some (byte.toNat - 0x41 + 10)
  else if 0x61 ≤ byte && byte ≤ 0x66 then some (byte.toNat - 0x61 + 10)
  else none

def hexValue? (digits : List UInt8) : Option Nat :=
  digits.foldlM (fun value byte => (hexDigit? byte).map (value * 16 + ·)) 0

def escaped? (letter : UInt8) : Option UInt8 :=
  [(0x22, 0x22), (0x5C, 0x5C), (0x2F, 0x2F), (0x62, 0x08), (0x66, 0x0C), (0x6E, 0x0A),
    (0x72, 0x0D), (0x74, 0x09)].lookup letter

def pieces? : Bytes → Option (List Piece × Bytes)
  | [] => none
  | byte :: rest =>
    if byte = 0x22 then some ([], rest)
    else if byte = 0x5C then
      match rest with
      | [] => none
      | letter :: rest =>
        if letter = 0x75 then
          match rest with
          | a :: b :: c :: d :: rest =>
            match hexValue? [a, b, c, d], pieces? rest with
            | some value, some (found, rest) => some (.unit value :: found, rest)
            | _, _ => none
          | _ => none
        else
          match escaped? letter, pieces? rest with
          | some value, some (found, rest) => some (.byte value :: found, rest)
          | _, _ => none
    else if byte < 0x20 then none
    else
      match pieces? rest with
      | some (found, rest) => some (.byte byte :: found, rest)
      | none => none
termination_by bytes => bytes.length
decreasing_by all_goals simp only [List.length_cons]; omega

def isHighSurrogate (unit : Nat) : Bool :=
  0xD800 ≤ unit && unit ≤ 0xDBFF

def isLowSurrogate (unit : Nat) : Bool :=
  0xDC00 ≤ unit && unit ≤ 0xDFFF

def surrogatePair (high low : Nat) : Char :=
  Char.ofNat (0x10000 + (high - 0xD800) * 0x400 + (low - 0xDC00))

/-- The UTF-8 form of the pieces; none if a surrogate stands alone. -/
def joinPieces? : List Piece → Option Bytes
  | [] => some []
  | .byte value :: rest => (joinPieces? rest).map (value :: ·)
  | .unit high :: .unit low :: rest =>
    if isHighSurrogate high && isLowSurrogate low then
      (joinPieces? rest).map (String.utf8EncodeChar (surrogatePair high low) ++ ·)
    else if isHighSurrogate high || isLowSurrogate high then none
    else (joinPieces? (.unit low :: rest)).map
      (String.utf8EncodeChar (Char.ofNat high) ++ ·)
  | .unit value :: rest =>
    if isHighSurrogate value || isLowSurrogate value then none
    else (joinPieces? rest).map (String.utf8EncodeChar (Char.ofNat value) ++ ·)

def textOf (pieces : List Piece) : Option String :=
  (joinPieces? pieces).bind Text.strict?

/-! ## Tokens -/

def literals : List (Bytes × Json) :=
  [(Text.utf8 "null", .null), (Text.utf8 "true", .boolean true),
    (Text.utf8 "false", .boolean false)]

def literal? (bytes : Bytes) : Option (Json × Bytes) :=
  (literals.find? fun entry => entry.1.isPrefixOf bytes).map fun entry =>
    (entry.2, bytes.drop entry.1.length)

def punctuation? (byte : UInt8) : Option Token :=
  if byte = 0x5B then some .beginArray
  else if byte = 0x5D then some .endArray
  else if byte = 0x7B then some .beginObject
  else if byte = 0x7D then some .endObject
  else if byte = 0x2C then some .comma
  else if byte = 0x3A then some .colon
  else none

def isBlank (byte : UInt8) : Bool :=
  byte == 0x20 || byte == 0x09 || byte == 0x0A || byte == 0x0D

def token? (byte : UInt8) (rest : Bytes) : Option (Token × Bytes) :=
  match punctuation? byte with
  | some token => some (token, rest)
  | none =>
    if byte = 0x22 then
      (pieces? rest).map fun (found, rest) => (.text (textOf found), rest)
    else if byte = 0x2D || isDigit byte then
      (numeral? (byte :: rest)).map fun (numeral, rest) => (.literal numeral.value, rest)
    else (literal? (byte :: rest)).map fun (value, rest) => (.literal value, rest)

def tokensWithin? : Nat → Bytes → Option (List Token)
  | _, [] => some []
  | 0, _ :: _ => none
  | count + 1, byte :: rest =>
    if isBlank byte then tokensWithin? count rest
    else
      match token? byte rest with
      | some (token, rest) => (tokensWithin? count rest).map (token :: ·)
      | none => none

def tokens? (bytes : Bytes) : Option (List Token) :=
  tokensWithin? bytes.length bytes

end ClusterPower.Json
