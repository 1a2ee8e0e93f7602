import ClusterPower.Json.Reader
import ClusterPower.Proofs.Json.Literals

/-!
Compact values, as they are read. A plain value is written as the tokens it has, and from these the
reader puts it together again: whatever containers are open, each value in it completes.
-/

namespace ClusterPower.Json

open Text

/-! ## Tokens -/

theorem tokensWithin?_mono {count more : Nat} {bytes : Bytes} {tokens : List Token}
    (read : tokensWithin? count bytes = some tokens) (enough : count ≤ more) :
    tokensWithin? more bytes = some tokens := by
  induction count generalizing more bytes tokens with
  | zero =>
      cases bytes with
      | nil => rwa [tokensWithin?] at read ⊢
      | cons byte rest => cases read
  | succ count induction =>
      cases bytes with
      | nil => rwa [tokensWithin?] at read ⊢
      | cons byte rest =>
          have positive := Nat.lt_of_lt_of_le count.succ_pos enough
          rcases Nat.exists_eq_add_of_le' positive with ⟨more, rfl⟩
          have fewer : count ≤ more := Nat.le_of_succ_le_succ enough
          rw [tokensWithin?] at read ⊢
          cases blank : isBlank byte with
          | true =>
              rw [blank, if_pos rfl] at read
              rw [if_pos rfl, induction read fewer]
          | false =>
              rw [blank, if_neg Bool.false_ne_true] at read
              rw [if_neg Bool.false_ne_true]
              cases found : token? byte rest with
              | none =>
                  rw [found] at read
                  cases read
              | some front =>
                  rw [found, Option.map_eq_some_iff] at read
                  rcases read with ⟨later, read, rfl⟩
                  exact congrArg (Option.map _) (induction read fewer)

/-- Whatever a value may be followed by, its bytes are read as its tokens. -/
def Lexes (part : Bytes) (tokens : List Token) : Prop :=
  ∀ rest count later, Ends rest → tokensWithin? count rest = some later →
    tokensWithin? (part.length + count) (part ++ rest) = some (tokens ++ later)

theorem lexes_nil : Lexes [] [] := by
  intro rest count later _ read
  rwa [List.length_nil, Nat.zero_add]

theorem Lexes.cons {byte : UInt8} {token : Token} {ahead part : Bytes} {tokens : List Token}
    (ink : isBlank byte = false)
    (found : ∀ rest, Ends rest →
      token? byte (ahead ++ (part ++ rest)) = some (token, part ++ rest))
    (lexes : Lexes part tokens) : Lexes (byte :: (ahead ++ part)) (token :: tokens) := by
  intro rest count later ends read
  have behind := tokensWithin?_mono (lexes rest count later ends read)
    (Nat.le_add_left (part.length + count) ahead.length)
  have length : (byte :: (ahead ++ part)).length + count =
      ahead.length + (part.length + count) + 1 := by
    rw [List.length_cons, List.length_append]
    omega
  rw [length, List.cons_append, tokensWithin?, if_neg (by rw [ink]; exact Bool.false_ne_true),
    List.append_assoc, found rest ends]
  exact congrArg (Option.map _) behind

theorem Lexes.cons_of_closed {byte : UInt8} {token : Token} (ahead : Bytes) {part : Bytes}
    {tokens : List Token} (ink : isBlank byte = false)
    (found : ∀ rest, token? byte (ahead ++ rest) = some (token, rest))
    (lexes : Lexes part tokens) : Lexes (byte :: (ahead ++ part)) (token :: tokens) :=
  Lexes.cons ink (fun rest _ => found (part ++ rest)) lexes

theorem Lexes.append {before behind : Bytes} {first second : List Token}
    (start : Lexes before first) (next : Lexes behind second)
    (ends : ∀ rest, Ends rest → Ends (behind ++ rest)) :
    Lexes (before ++ behind) (first ++ second) := by
  intro rest count later last read
  have both := start (behind ++ rest) (behind.length + count) (second ++ later) (ends rest last)
    (next rest count later last read)
  rwa [List.length_append, List.append_assoc, List.append_assoc, Nat.add_assoc]

/-! ## Tokens that are written -/

theorem Lexes.quote {name : String} (plain : isPlainText name = true) {part : Bytes}
    {tokens : List Token} (lexes : Lexes part tokens) :
    Lexes (utf8 (quote name) ++ part) (.text (some name) :: tokens) := by
  have each := List.all_eq_true.mp plain
  have found (rest : Bytes) :
      token? 0x22 (name.toList.map plainByte ++ [0x22] ++ rest) =
        some (.text (some name), rest) := by
    have read := pieces?_plain each rest
    rw [List.append_assoc, List.singleton_append]
    change (pieces? _).map _ = _
    rw [read, Option.map_some]
    dsimp only
    rw [textOf_plain each, String.ofList_toList]
  rw [utf8_quote plain]
  exact Lexes.cons_of_closed _ (by decide) found lexes

theorem token?_of_numeral {byte : UInt8} {bytes rest : Bytes} {numeral : Numeral}
    (starts : byte = 0x2D ∨ isDigit byte = true)
    (read : numeral? (byte :: bytes) = some (numeral, rest)) :
    isBlank byte = false ∧ token? byte bytes = some (.literal numeral.value, rest) := by
  have range : byte = 0x2D ∨ (0x30 ≤ byte.toNat ∧ byte.toNat ≤ 0x39) := by
    simpa [isDigit, UInt8.le_iff_toNat_le] using starts
  have differs {other : UInt8}
      (apart : other ≠ 0x2D ∧ ¬(0x30 ≤ other.toNat ∧ other.toNat ≤ 0x39)) : byte ≠ other := by
    rintro rfl
    exact range.elim apart.1 apart.2
  have unmarked : punctuation? byte = none := by
    unfold punctuation?
    iterate 6 rw [if_neg (differs (by decide))]
  have unquoted : byte ≠ 0x22 := differs (by decide)
  have numeric : (byte = 0x2D || isDigit byte) = true := by simpa using starts
  refine ⟨?_, ?_⟩
  · simp [isBlank, @differs 0x20 (by decide), @differs 0x09 (by decide),
      @differs 0x0A (by decide), @differs 0x0D (by decide)]
  · rw [token?, unmarked]
    dsimp only
    rw [if_neg unquoted, if_pos numeric, read]
    rfl

theorem lexes_numeral {byte : UInt8} {ahead : Bytes} {numeral : Numeral}
    (starts : byte = 0x2D ∨ isDigit byte = true)
    (read : ∀ rest, Ends rest → numeral? (byte :: (ahead ++ rest)) = some (numeral, rest)) :
    Lexes (byte :: ahead) [.literal numeral.value] := by
  have ink := (token?_of_numeral starts (read [] nofun)).1
  have lexes := @Lexes.cons byte _ ahead [] [] ink
    (fun rest ends => (token?_of_numeral starts (read rest ends)).2) lexes_nil
  rwa [List.append_nil] at lexes

theorem lexes_integer {value : Int}
    (fits : -(Word.signedBound 64 : Int) ≤ value ∧ value < Word.bound 64) :
    Lexes (utf8 (toString value)) [.literal (.integer value)] := by
  have largest : Numeral.largestSignificand = Word.bound 64 - 1 := rfl
  have half : Word.signedBound 64 < Word.bound 64 := by decide
  cases value with
  | ofNat value =>
      rw [Int.ofNat_eq_natCast] at fits ⊢
      have read := @value_digitsOf false value (by omega) nofun
      rw [if_neg Bool.false_ne_true] at read
      rcases exists_utf8_repr value with ⟨number, tail, split, low, high, _⟩
      change Lexes (utf8 value.repr) _
      rw [split, ← read]
      apply lexes_numeral (Or.inr (isDigit_ofNat ⟨low, high⟩).1)
      intro rest ends
      rw [← List.cons_append, ← split]
      exact numeral?_written false value ends
  | negSucc value =>
      have read := @value_digitsOf true (value + 1) (by omega) fun _ => by omega
      rw [if_pos rfl] at read
      change Lexes (utf8 ("-" ++ (value + 1).repr))
        [.literal (.integer (-((value + 1 : Nat) : Int)))]
      rw [utf8_append, ← read]
      exact lexes_numeral (Or.inl rfl) fun rest ends => numeral?_written true (value + 1) ends

theorem lexes_null : Lexes (utf8 "null") [.literal .null] :=
  Lexes.cons_of_closed [0x75, 0x6C, 0x6C] (by decide) (fun _ => rfl) lexes_nil

theorem lexes_boolean (value : Bool) :
    Lexes (utf8 (if value then "true" else "false")) [.literal (.boolean value)] := by
  cases value with
  | true => exact Lexes.cons_of_closed [0x72, 0x75, 0x65] (by decide) (fun _ => rfl) lexes_nil
  | false =>
      exact Lexes.cons_of_closed [0x61, 0x6C, 0x73, 0x65] (by decide) (fun _ => rfl) lexes_nil

theorem lexes_separated {close : UInt8} {closing : Token} {texts : List String}
    {tokens : List (List Token)} (last : Lexes [close] [closing])
    (ends : close = 0x5D ∨ close = 0x7D)
    (parts : List.Forall₂ (fun text tokens => Lexes (utf8 text) tokens) texts tokens) :
    Lexes (utf8 (",".intercalate texts) ++ [close])
      ([Token.comma].intercalate tokens ++ [closing]) := by
  induction parts with
  | nil => exact last
  | @cons text tokens texts others part parts induction =>
      cases parts with
      | nil =>
          rw [String.intercalate_singleton, List.intercalate_singleton]
          exact part.append last fun rest _ => ends_cons (Or.inr ends) rest
      | cons next parts =>
          rw [String.intercalate_cons_cons, List.intercalate_cons_cons, utf8_append, utf8_append,
            List.append_assoc, List.append_assoc, List.append_assoc, List.append_assoc]
          have comma := @Lexes.cons_of_closed 0x2C .comma [] _ _ (by decide)
            (fun _ => rfl) induction
          exact part.append comma fun rest _ => ends_cons (Or.inl rfl) _

/-! ## Tokens of values -/

mutual

def tokensOf : Json → List Token
  | .array items =>
    .beginArray :: ([Token.comma].intercalate (itemTokens items) ++ [.endArray])
  | .object members =>
    .beginObject :: ([Token.comma].intercalate (memberTokens members) ++ [.endObject])
  | .text value => [.text (some value)]
  | value => [.literal value]

def itemTokens : List Json → List (List Token)
  | [] => []
  | item :: rest => tokensOf item :: itemTokens rest

def memberTokens : List (String × Json) → List (List Token)
  | [] => []
  | (name, value) :: rest =>
    (.text (some name) :: .colon :: tokensOf value) :: memberTokens rest

end

mutual

/-- A value below so many containers that needs no escape and no rounding: its texts are plain, its
numbers are words, and its containers are not nested too deep. -/
def isPlain (level : Nat) : Json → Bool
  | .null => true
  | .boolean _ => true
  | .integer value => decide (-(Word.signedBound 64 : Int) ≤ value ∧ value < Word.bound 64)
  | .real _ => false
  | .text value => isPlainText value
  | .array items => decide (level < ReaderState.deepest) && arePlain (level + 1) items
  | .object members => decide (level < ReaderState.deepest) && membersArePlain (level + 1) members
  | .unreadable => false

def arePlain (level : Nat) : List Json → Bool
  | [] => true
  | item :: rest => isPlain level item && arePlain level rest

def membersArePlain (level : Nat) : List (String × Json) → Bool
  | [] => true
  | (name, value) :: rest => isPlainText name && isPlain level value && membersArePlain level rest

end

theorem arePlain_iff {level : Nat} {items : List Json} :
    arePlain level items = true ↔ ∀ item ∈ items, isPlain level item = true := by
  induction items with
  | nil => simp [arePlain]
  | cons item rest induction => simp [arePlain, induction]

theorem lexes_container {opening close : UInt8} {first last : Token} {texts : List String}
    {tokens : List (List Token)} (closes : close = 0x5D ∨ close = 0x7D)
    (start : isBlank opening = false ∧ ∀ rest, token? opening rest = some (first, rest))
    (ending : Lexes [close] [last])
    (parts : List.Forall₂ (fun text tokens => Lexes (utf8 text) tokens) texts tokens) :
    Lexes (opening :: (utf8 (",".intercalate texts) ++ [close]))
      (first :: ([Token.comma].intercalate tokens ++ [last])) :=
  Lexes.cons_of_closed [] start.1 start.2 (lexes_separated ending closes parts)

mutual

theorem lexes_compact (level : Nat) : ∀ value : Json, isPlain level value = true →
    Lexes (utf8 value.compact) (tokensOf value)
  | .null, _ => lexes_null
  | .boolean value, _ => lexes_boolean value
  | .integer value, plain => lexes_integer (of_decide_eq_true plain)
  | .real _, plain => nomatch plain
  | .text value, plain => by
      have lexes := @Lexes.quote value plain [] [] lexes_nil
      rwa [List.append_nil] at lexes
  | .array items, plain => by
      rw [isPlain, Bool.and_eq_true] at plain
      rw [compact, utf8_append, utf8_append]
      exact lexes_container (Or.inl rfl) ⟨by decide, fun _ => rfl⟩
        (Lexes.cons_of_closed [] (by decide) (fun _ => rfl) lexes_nil)
        (lexes_compactItems (level + 1) items plain.2)
  | .object members, plain => by
      rw [isPlain, Bool.and_eq_true] at plain
      rw [compact, utf8_append, utf8_append]
      exact lexes_container (Or.inr rfl) ⟨by decide, fun _ => rfl⟩
        (Lexes.cons_of_closed [] (by decide) (fun _ => rfl) lexes_nil)
        (lexes_compactMembers (level + 1) members plain.2)
  | .unreadable, plain => nomatch plain

theorem lexes_compactItems (level : Nat) : ∀ items : List Json, arePlain level items = true →
    List.Forall₂ (fun text tokens => Lexes (utf8 text) tokens) (compactItems items)
      (itemTokens items)
  | [], _ => .nil
  | item :: rest, plain => by
      rw [arePlain, Bool.and_eq_true] at plain
      exact .cons (lexes_compact level item plain.1) (lexes_compactItems level rest plain.2)

theorem lexes_compactMembers (level : Nat) :
    ∀ members : List (String × Json), membersArePlain level members = true →
      List.Forall₂ (fun text tokens => Lexes (utf8 text) tokens) (compactMembers members)
        (memberTokens members)
  | [], _ => .nil
  | (name, value) :: rest, plain => by
      rw [membersArePlain, Bool.and_eq_true, Bool.and_eq_true] at plain
      refine .cons ?_ (lexes_compactMembers level rest plain.2)
      rw [utf8_append, utf8_append, List.append_assoc]
      exact Lexes.quote plain.1.1 (Lexes.cons_of_closed [] (by decide) (fun _ => rfl)
        (lexes_compact level value plain.1.2))

end

/-! ## Reading them back -/

theorem exists_intercalate_cons {Item : Type} (separator first : List Item)
    (rest : List (List Item)) :
    ∃ more, separator.intercalate (first :: rest) = first ++ more := by
  cases rest with
  | nil => exact ⟨[], by rw [List.intercalate_singleton, List.append_nil]⟩
  | cons next rest =>
      exact ⟨_, by rw [List.intercalate_cons_cons, List.append_assoc]⟩

namespace ReaderState

theorem close_of_shallow {outer : List Frame} (shallow : outer.length < deepest) (value : Json) :
    close value outer = complete value outer := by
  rw [close, if_pos ((isShallow_iff outer).mpr shallow)]

theorem foldlM_arrayStart (value : Json) (outer : List Frame) (more : List Token) :
    (tokensOf value ++ more).foldlM step ⟨outer, .arrayStart⟩ =
      (tokensOf value ++ more).foldlM step ⟨.array [] :: outer, .value⟩ := by
  cases value <;> rfl

end ReaderState

open ReaderState in
mutual

theorem complete_tokensOf : ∀ (value : Json) (outer : List Frame),
    isPlain outer.length value = true →
      (tokensOf value).foldlM step ⟨outer, .value⟩ = some (complete value outer)
  | .null, _, _ => rfl
  | .boolean _, _, _ => rfl
  | .integer _, _, _ => rfl
  | .real _, _, plain => nomatch plain
  | .text _, _, _ => rfl
  | .unreadable, _, plain => nomatch plain
  | .array items, outer, plain => by
      rw [isPlain, Bool.and_eq_true, decide_eq_true_eq] at plain
      rw [← close_of_shallow plain.1]
      cases items with
      | nil => rfl
      | cons item rest =>
          -- The first item is not due before its first token, which is no closing bracket.
          have read := close_itemTokens (item :: rest) [] outer nofun plain.2
          rcases exists_intercalate_cons [Token.comma] (tokensOf item) (itemTokens rest) with
            ⟨more, split⟩
          rw [itemTokens, split, List.append_assoc, ← foldlM_arrayStart] at read
          rw [tokensOf, itemTokens, split, List.append_assoc]
          exact read
  | .object members, outer, plain => by
      rw [isPlain, Bool.and_eq_true, decide_eq_true_eq] at plain
      rw [← close_of_shallow plain.1]
      cases members with
      | nil => rfl
      | cons member rest =>
          have read := close_memberTokens (member :: rest) [] outer nofun plain.2
          rcases exists_intercalate_cons [Token.comma]
            (.text (some member.1) :: .colon :: tokensOf member.2) (memberTokens rest) with
            ⟨more, split⟩
          rw [memberTokens, split] at read
          rw [tokensOf, memberTokens, split]
          exact read

theorem close_itemTokens : ∀ (items seen : List Json) (outer : List Frame), items ≠ [] →
    arePlain (outer.length + 1) items = true →
      ([Token.comma].intercalate (itemTokens items) ++ [Token.endArray]).foldlM step
          ⟨.array seen :: outer, .value⟩ =
        some (close (.array (seen.reverse ++ items)) outer)
  | [], _, _, nonempty, _ => absurd rfl nonempty
  | [item], seen, outer, _, plain => by
      rw [arePlain, Bool.and_eq_true] at plain
      rw [itemTokens, itemTokens, List.intercalate_singleton, List.foldlM_append,
        complete_tokensOf item (.array seen :: outer) plain.1]
      simp [complete, step]
  | item :: next :: rest, seen, outer, _, plain => by
      rw [arePlain, Bool.and_eq_true] at plain
      have later := close_itemTokens (next :: rest) (item :: seen) outer nofun plain.2
      rw [itemTokens, itemTokens, List.intercalate_cons_cons, List.append_assoc, List.append_assoc,
        List.foldlM_append, complete_tokensOf item (.array seen :: outer) plain.1]
      simpa [complete, step, itemTokens] using later

theorem close_memberTokens : ∀ (members seen : List (String × Json)) (outer : List Frame),
    members ≠ [] → membersArePlain (outer.length + 1) members = true →
      ([Token.comma].intercalate (memberTokens members) ++ [Token.endObject]).foldlM step
          ⟨outer, .nextName (some seen)⟩ =
        some (close (.object (seen.reverse ++ members)) outer)
  | [], _, _, nonempty, _ => absurd rfl nonempty
  | [(name, value)], seen, outer, _, plain => by
      rw [membersArePlain, Bool.and_eq_true, Bool.and_eq_true] at plain
      have held := complete_tokensOf value (.object (some (seen, name)) :: outer) plain.1.2
      rw [memberTokens, memberTokens, List.intercalate_singleton, List.foldlM_append]
      simp [complete, step, held]
  | (name, value) :: next :: rest, seen, outer, _, plain => by
      rw [membersArePlain, Bool.and_eq_true, Bool.and_eq_true] at plain
      have held := complete_tokensOf value (.object (some (seen, name)) :: outer) plain.1.2
      have later := close_memberTokens (next :: rest) ((name, value) :: seen) outer nofun plain.2
      rw [memberTokens, memberTokens, List.intercalate_cons_cons, List.append_assoc,
        List.append_assoc, List.foldlM_append]
      simpa [complete, step, held, memberTokens] using later

end

theorem read?_compact {value : Json} (plain : isPlain 0 value = true) :
    read? (utf8 value.compact) = some value := by
  have lexed := lexes_compact 0 value plain [] 0 [] nofun rfl
  rw [List.append_nil, List.append_nil, Nat.add_zero] at lexed
  rw [read?, tokens?, lexed, Option.bind_some, ofTokens?, ReaderState.start,
    complete_tokensOf value [] plain]
  rfl

end ClusterPower.Json
