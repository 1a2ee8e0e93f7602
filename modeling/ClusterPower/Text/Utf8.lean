/-!
Text as bytes. `Text.utf8` writes a text in UTF-8, `Text.scan` reads bytes back
one character at a time, and the two readers built on it differ only in what
they do with ill-formed parts: `Text.strict?` refuses them, `Text.lossy` puts
one U+FFFD for each maximal ill-formed part.
-/

namespace ClusterPower

abbrev Bytes := List UInt8

namespace Text

def utf8 (text : String) : Bytes :=
  text.toList.flatMap String.utf8EncodeChar

/-! ## Reading one character -/

/-- The number of continuation bytes that a leading byte asks for, with the
range that the first of them must lie in. The narrowed ranges rule out overlong
forms, surrogates and values above U+10FFFF. -/
def lead? (byte : UInt8) : Option (Nat × UInt8 × UInt8) :=
  if 0xC2 ≤ byte && byte ≤ 0xDF then some (1, 0x80, 0xBF)
  else if byte == 0xE0 then some (2, 0xA0, 0xBF)
  else if byte == 0xED then some (2, 0x80, 0x9F)
  else if 0xE1 ≤ byte && byte ≤ 0xEF then some (2, 0x80, 0xBF)
  else if byte == 0xF0 then some (3, 0x90, 0xBF)
  else if 0xF1 ≤ byte && byte ≤ 0xF3 then some (3, 0x80, 0xBF)
  else if byte == 0xF4 then some (3, 0x80, 0x8F)
  else none

def leadBits (count : Nat) (byte : UInt8) : Nat :=
  match count with
  | 1 => byte.toNat % 32
  | 2 => byte.toNat % 16
  | _ => byte.toNat % 8

/-- Read the continuation bytes of a character. The second component is what
follows the character, or what follows its longest well-begun part. -/
def continuation (count : Nat) (low high : UInt8) (value : Nat) :
    Bytes → Option Char × Bytes
  | [] => (if count = 0 then some (Char.ofNat value) else none, [])
  | byte :: rest =>
    match count with
    | 0 => (some (Char.ofNat value), byte :: rest)
    | remaining + 1 =>
      if low ≤ byte && byte ≤ high then
        continuation remaining 0x80 0xBF (value * 64 + byte.toNat % 64) rest
      else (none, byte :: rest)

theorem continuation_length_le (count : Nat) (low high : UInt8) (value : Nat)
    (bytes : Bytes) :
    (continuation count low high value bytes).2.length ≤ bytes.length := by
  induction bytes generalizing count low high value with
  | nil => simp [continuation]
  | cons byte rest induction =>
      cases count with
      | zero => simp [continuation]
      | succ remaining =>
          rw [continuation]
          split
          · exact Nat.le_succ_of_le (induction _ _ _ _)
          · simp

/-- Read the character that starts with `byte`; `none` is an ill-formed part. -/
def character (byte : UInt8) (rest : Bytes) : Option Char × Bytes :=
  if byte < 0x80 then (some (Char.ofNat byte.toNat), rest)
  else
    match lead? byte with
    | some (count, low, high) => continuation count low high (leadBits count byte) rest
    | none => (none, rest)

theorem character_length_le (byte : UInt8) (rest : Bytes) :
    (character byte rest).2.length ≤ rest.length := by
  unfold character
  split
  · exact Nat.le_refl _
  · split
    · exact continuation_length_le ..
    · exact Nat.le_refl _

/-! ## Reading a whole text -/

/-- The characters of a byte sequence in order, with `none` for each maximal
ill-formed part. -/
def scan : Bytes → List (Option Char)
  | [] => []
  | byte :: rest =>
    (character byte rest).1 :: scan (character byte rest).2
termination_by bytes => bytes.length
decreasing_by
  exact Nat.lt_succ_of_le (character_length_le byte rest)

def strict? (bytes : Bytes) : Option String :=
  ((scan bytes).mapM id).map String.ofList

def lossy (bytes : Bytes) : String :=
  String.ofList ((scan bytes).map (·.getD '\uFFFD'))

/-- A truncated character is one ill-formed part; a stray continuation byte is
another. -/
example : scan [0x41, 0xE2, 0x82, 0x41, 0xBF] =
    [some 'A', none, some 'A', none] := by decide +kernel

example : strict? (utf8 "é😀") = some "é😀" := by decide +kernel

end Text

end ClusterPower
