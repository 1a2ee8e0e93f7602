import ClusterPower.Json.Token
import ClusterPower.Json.Writer
import Mathlib.Data.List.Basic

/-!
Integers and texts, as they are written and as they are read. An integer ends where a byte stands
that cannot belong to it. A text is plain if its characters stand for themselves, one byte each.
-/

namespace ClusterPower.Json

open Text

/-! ## Bytes of texts -/

theorem utf8_append (left right : String) : utf8 (left ++ right) = utf8 left ++ utf8 right := by
  simp [utf8]

theorem flatMap_utf8EncodeChar {characters : List Char}
    (ascii : ∀ character ∈ characters, character.toNat < 0x80) :
    characters.flatMap String.utf8EncodeChar =
      characters.map fun character => UInt8.ofNat character.toNat := by
  induction characters with
  | nil => rfl
  | cons character rest induction =>
      rcases List.forall_mem_cons.mp ascii with ⟨here, later⟩
      have one : String.utf8EncodeChar character = [UInt8.ofNat character.toNat] :=
        if_pos (Nat.le_of_lt_succ here)
      rw [List.flatMap_cons, one, induction later]
      rfl

/-! ## Numbers -/

/-- What may stand behind a number: nothing that would belong to it. -/
def Ends (rest : Bytes) : Prop :=
  ∀ byte ∈ rest.head?, byte = 0x2C ∨ byte = 0x5D ∨ byte = 0x7D

theorem ends_cons {byte : UInt8} (ends : byte = 0x2C ∨ byte = 0x5D ∨ byte = 0x7D)
    (rest : Bytes) : Ends (byte :: rest) := by
  rintro _ ⟨⟩
  exact ends

theorem Ends.dropByte?_eq_none {rest : Bytes} {byte : UInt8} (ends : Ends rest)
    (other : byte ≠ 0x2C ∧ byte ≠ 0x5D ∧ byte ≠ 0x7D) : dropByte? byte rest = none := by
  cases rest with
  | nil => rfl
  | cons first rest =>
      apply if_neg
      rintro rfl
      rcases ends first rfl with same | same | same
      · exact other.1 same
      · exact other.2.1 same
      · exact other.2.2 same

theorem Ends.digits_eq {rest : Bytes} (ends : Ends rest) : digits rest = ([], rest) := by
  cases rest with
  | nil => rfl
  | cons first rest =>
      have other : isDigit first = false := by
        rcases ends first rfl with rfl | rfl | rfl <;> decide
      simp [digits, other]

def digitsOf (value : Nat) : List Nat :=
  (Nat.toDigits 10 value).map fun character => character.toNat - 0x30

theorem toNat_of_isDigit {character : Char} (isDigit : character.isDigit = true) :
    0x30 ≤ character.toNat ∧ character.toNat ≤ 0x39 := by
  simpa [Char.isDigit, UInt32.le_iff_toNat_le] using isDigit

theorem toNat_of_mem_toDigits {value : Nat} {character : Char}
    (member : character ∈ Nat.toDigits 10 value) :
    0x30 ≤ character.toNat ∧ character.toNat ≤ 0x39 :=
  toNat_of_isDigit (Nat.isDigit_of_mem_toDigits (by decide) (by decide) member)

theorem utf8_repr (value : Nat) :
    utf8 value.repr =
      (Nat.toDigits 10 value).map fun character => UInt8.ofNat character.toNat := by
  rw [utf8, ← flatMap_utf8EncodeChar]
  · simp
  · intro character member
    have range := toNat_of_mem_toDigits member
    omega

theorem isDigit_ofNat {number : Nat} (range : 0x30 ≤ number ∧ number ≤ 0x39) :
    isDigit (UInt8.ofNat number) = true ∧ (UInt8.ofNat number).toNat = number := by
  have small : (UInt8.ofNat number).toNat = number := by
    rw [UInt8.toNat_ofNat']
    omega
  refine ⟨?_, small⟩
  simp [isDigit, UInt8.le_iff_toNat_le, small, range]

theorem digits_written (value : Nat) {rest : Bytes} (ends : Ends rest) :
    digits (utf8 value.repr ++ rest) = (digitsOf value, rest) := by
  have all : ∀ byte ∈ utf8 value.repr, isDigit byte = true := by
    rw [utf8_repr]
    intro byte member
    rcases List.mem_map.mp member with ⟨character, listed, rfl⟩
    exact (isDigit_ofNat (toNat_of_mem_toDigits listed)).1
  have none := ends.digits_eq
  rw [digits, Prod.mk.injEq, List.map_eq_nil_iff] at none
  rw [digits, List.takeWhile_append_of_pos all, List.dropWhile_append_of_pos all, none.1, none.2,
    List.append_nil, utf8_repr, List.map_map, digitsOf]
  refine Prod.ext (List.map_congr_left fun character listed => ?_) rfl
  exact congrArg (· - 0x30) (isDigit_ofNat (toNat_of_mem_toDigits listed)).2

theorem exists_toDigits_of_pos {value : Nat} (positive : 0 < value) :
    ∃ first rest, Nat.toDigits 10 value = first :: rest ∧ first ≠ '0' := by
  induction value using Nat.strongRecOn with
  | ind value induction =>
      by_cases small : value < 10
      · refine ⟨value.digitChar, [], Nat.toDigits_of_lt_base small, ?_⟩
        have digit : ∀ digit < 10, 0 < digit → Nat.digitChar digit ≠ '0' := by decide
        exact digit value small positive
      · rcases induction (value / 10) (by omega) (by omega) with ⟨first, rest, split, notZero⟩
        refine ⟨first, rest ++ [(value % 10).digitChar], ?_, notZero⟩
        rw [Nat.toDigits_of_base_le (by decide) (by omega), split]
        rfl

theorem le_foldl_digits (digits : List Nat) (start : Nat) :
    start ≤ digits.foldl (fun value digit => value * 10 + digit) start := by
  induction digits generalizing start with
  | nil => exact Nat.le_refl _
  | cons digit rest induction =>
      have larger : start ≤ start * 10 + digit := by omega
      exact Nat.le_trans larger (induction _)

theorem appendWhole_eq {digits : List Nat} {start : Nat}
    (fits : digits.foldl (fun value digit => value * 10 + digit) start ≤
      Numeral.largestSignificand) :
    Numeral.appendWhole start 0 digits =
      (digits.foldl (fun value digit => value * 10 + digit) start, 0) := by
  induction digits generalizing start with
  | nil => rfl
  | cons digit rest induction =>
      rw [Numeral.appendWhole, if_pos ⟨rfl, Nat.le_trans (le_foldl_digits rest _) fits⟩,
        induction fits]
      rfl

theorem foldl_digitsOf (value : Nat) :
    (digitsOf value).foldl (fun value digit => value * 10 + digit) 0 = value := by
  have read : Nat.ofDigitChars 10 (Nat.toDigits 10 value) 0 = value := Nat.ofDigitChars_ten_toDigits
  rw [digitsOf, List.foldl_map]
  simpa [Nat.ofDigitChars, Nat.mul_comm] using read

theorem appendWhole_digitsOf {value : Nat} (fits : value ≤ Numeral.largestSignificand) :
    Numeral.appendWhole 0 0 (digitsOf value) = (value, 0) := by
  rw [appendWhole_eq (by rwa [foldl_digitsOf]), foldl_digitsOf]

theorem exists_utf8_repr (value : Nat) :
    ∃ number tail, utf8 value.repr = UInt8.ofNat number :: tail ∧
      0x30 ≤ number ∧ number ≤ 0x39 ∧ (number = 0x30 → value = 0) := by
  rw [utf8_repr]
  by_cases zero : value = 0
  · exact ⟨0x30, [], by rw [zero]; rfl, by decide, by decide, fun _ => zero⟩
  · rcases exists_toDigits_of_pos (Nat.pos_of_ne_zero zero) with ⟨first, rest, split, notZero⟩
    have range := toNat_of_mem_toDigits (split ▸ List.mem_cons_self : first ∈ _)
    refine ⟨first.toNat, _, by rw [split]; rfl, range.1, range.2, fun same => ?_⟩
    exact absurd (Char.toNat_inj.mp same) notZero

theorem dropByte?_ofNat {number other : Nat} (range : number < 256) (outside : other < 256)
    (apart : number ≠ other) (rest : Bytes) :
    dropByte? (UInt8.ofNat other) (UInt8.ofNat number :: rest) = none := by
  apply if_neg
  intro same
  have equal := congrArg UInt8.toNat same
  rw [UInt8.toNat_ofNat', UInt8.toNat_ofNat'] at equal
  omega

theorem dropByte?_sign (negative : Bool) (value : Nat) (rest : Bytes) :
    dropByte? 0x2D ((if negative then [0x2D] else []) ++ (utf8 value.repr ++ rest)) =
      if negative then some (utf8 value.repr ++ rest) else none := by
  cases negative with
  | true => rfl
  | false =>
      rcases exists_utf8_repr value with ⟨number, tail, split, low, high, _⟩
      rw [split]
      exact @dropByte?_ofNat number 0x2D (by omega) (by decide) (by omega) _

theorem dropByte?_zero (value : Nat) (rest : Bytes) :
    dropByte? 0x30 (utf8 value.repr ++ rest) = if value = 0 then some rest else none := by
  by_cases isZero : value = 0
  · rw [isZero]
    rfl
  · rcases exists_utf8_repr value with ⟨number, tail, split, low, high, leading⟩
    rw [split, if_neg isZero]
    exact dropByte?_ofNat (by omega) (by decide) (mt leading isZero) _

theorem numeral?_written (negative : Bool) (value : Nat) {rest : Bytes} (ends : Ends rest) :
    numeral? ((if negative then [0x2D] else []) ++ (utf8 value.repr ++ rest)) =
      some (⟨negative, digitsOf value, none, none⟩, rest) := by
  have point : fraction? rest = some (none, rest) := by
    rw [fraction?, ends.dropByte?_eq_none (by decide)]
  have exponent : exponent? rest = some (none, rest) := by
    rw [exponent?, ends.dropByte?_eq_none (by decide), ends.dropByte?_eq_none (by decide)]
    rfl
  have present : (digitsOf value).isEmpty = false := by
    simp [digitsOf]
  unfold numeral?
  rw [dropByte?_sign]
  cases negative with
  | true | false =>
      simp only [if_true, if_false, Bool.false_eq_true, List.nil_append, dropByte?_zero]
      by_cases isZero : value = 0
      · simp [isZero, point, exponent, digitsOf]
      · simp [isZero, point, exponent, digits_written value ends, present]

theorem value_digitsOf (negative : Bool) {value : Nat} (fits : value ≤ Numeral.largestSignificand)
    (signed : negative = true → 0 < value ∧ value ≤ Word.signedBound 64) :
    (Numeral.mk negative (digitsOf value) none none).value =
      .integer (if negative then -(value : Int) else value) := by
  rw [Numeral.value, appendWhole_digitsOf fits]
  cases negative with
  | false => simp
  | true => simp [signed rfl]

/-! ## Texts -/

def isPlainCharacter (character : Char) : Bool :=
  decide (0x20 ≤ character.toNat ∧ character.toNat < 0x80) && character != '"' &&
    character != '\\'

def isPlainText (content : String) : Bool :=
  content.toList.all isPlainCharacter

def plainByte (character : Char) : UInt8 := UInt8.ofNat character.toNat

theorem isPlainCharacter_iff {character : Char} :
    isPlainCharacter character = true ↔
      (0x20 ≤ character.toNat ∧ character.toNat < 0x80) ∧ character ≠ '"' ∧
        character ≠ '\\' := by
  simp [isPlainCharacter, and_assoc]

theorem toNat_plainByte {character : Char} (plain : isPlainCharacter character = true) :
    (plainByte character).toNat = character.toNat := by
  have range := (isPlainCharacter_iff.mp plain).1
  rw [plainByte, UInt8.toNat_ofNat']
  omega

theorem escape_of_plain {character : Char} (plain : isPlainCharacter character = true) :
    escape character = [character] := by
  rcases isPlainCharacter_iff.mp plain with ⟨range, notQuote, notBackslash⟩
  have above {control : Char} (below : control.toNat < 0x20) : character ≠ control := by
    rintro rfl
    omega
  unfold escape
  split
  · exact absurd rfl notQuote
  · exact absurd rfl notBackslash
  · exact absurd rfl (above (by decide))
  · exact absurd rfl (above (by decide))
  · exact absurd rfl (above (by decide))
  · exact absurd rfl (above (by decide))
  · exact absurd rfl (above (by decide))
  · exact if_neg (by omega)

theorem utf8_quote {name : String} (plain : isPlainText name = true) :
    utf8 (quote name) = 0x22 :: (name.toList.map plainByte ++ [0x22]) := by
  have each := List.all_eq_true.mp plain
  have unescaped : name.toList.flatMap escape = name.toList := by
    rw [List.flatMap_congr fun character member => escape_of_plain (each character member)]
    exact List.flatMap_singleton' _
  have ascii : ∀ character ∈ '"' :: name.toList ++ ['"'], character.toNat < 0x80 := by
    simp only [List.cons_append, List.forall_mem_cons, List.forall_mem_append]
    exact ⟨by decide, fun character member =>
      (isPlainCharacter_iff.mp (each character member)).1.2, by decide, nofun⟩
  rw [utf8, quote, unescaped, String.toList_ofList, flatMap_utf8EncodeChar ascii]
  simp [plainByte]

theorem pieces?_plain {characters : List Char}
    (plain : ∀ character ∈ characters, isPlainCharacter character = true) (rest : Bytes) :
    pieces? (characters.map plainByte ++ 0x22 :: rest) =
      some ((characters.map plainByte).map .byte, rest) := by
  induction characters with
  | nil =>
      rw [List.map_nil, List.nil_append, pieces?.eq_def]
      exact if_pos rfl
  | cons character behind induction =>
      rcases List.forall_mem_cons.mp plain with ⟨here, later⟩
      rcases isPlainCharacter_iff.mp here with ⟨range, notQuote, notBackslash⟩
      have differs {other : UInt8} (apart : character.toNat ≠ other.toNat) :
          plainByte character ≠ other := by
        intro same
        rw [← toNat_plainByte here, same] at apart
        exact apart rfl
      have quoteless : plainByte character ≠ 0x22 :=
        differs (fun same => notQuote (Char.toNat_inj.mp same))
      have unescaped : plainByte character ≠ 0x5C :=
        differs (fun same => notBackslash (Char.toNat_inj.mp same))
      have printed : ¬plainByte character < 0x20 := by
        rw [UInt8.lt_iff_toNat_lt, toNat_plainByte here]
        exact Nat.not_lt.mpr range.1
      rw [List.map_cons, List.cons_append, pieces?.eq_def]
      dsimp only
      rw [if_neg quoteless, if_neg unescaped, if_neg printed, induction later]
      rfl

theorem joinPieces?_bytes (bytes : Bytes) : joinPieces? (bytes.map .byte) = some bytes := by
  induction bytes with
  | nil => rfl
  | cons byte rest induction =>
      rw [List.map_cons, joinPieces?, induction]
      rfl

theorem scan_plain {characters : List Char}
    (plain : ∀ character ∈ characters, isPlainCharacter character = true) :
    scan (characters.map plainByte) = characters.map some := by
  induction characters with
  | nil => rw [List.map_nil, scan, List.map_nil]
  | cons character rest induction =>
      rcases List.forall_mem_cons.mp plain with ⟨here, later⟩
      have single : plainByte character < 0x80 := by
        rw [UInt8.lt_iff_toNat_lt, toNat_plainByte here]
        exact (isPlainCharacter_iff.mp here).1.2
      rw [List.map_cons, scan, Text.character, if_pos single, toNat_plainByte here,
        Char.ofNat_toNat, induction later, List.map_cons]

theorem textOf_plain {characters : List Char}
    (plain : ∀ character ∈ characters, isPlainCharacter character = true) :
    textOf ((characters.map plainByte).map .byte) = some (String.ofList characters) := by
  have whole : (characters.map some).mapM id = some characters := by
    rw [List.mapM_map]
    exact List.mapM_pure.trans (congrArg some (List.map_id characters))
  rw [textOf, joinPieces?_bytes, Option.bind_some, strict?, scan_plain plain, whole]
  rfl

end ClusterPower.Json
