import ClusterPower.Proofs.Xname
import Mathlib.Computability.Language

/-!
The grammar of component names. A text is read as a component name exactly if it is made of levels,
each of a letter and a number, and what is read of it then are the names down to each level. The
component above a network board is therefore a router module.
-/

namespace ClusterPower.Xname

variable {above characters number : List Char} {letter : Char} {segments : List Segment}

/-! ## The grammar -/

def level : Language Char :=
  {word | ∃ letter number, word = letter :: number ∧ ('a' ≤ letter ∧ letter ≤ 'z') ∧
    number ≠ [] ∧ ∀ digit ∈ number, '0' ≤ digit ∧ digit ≤ '9'}

def levels : Language Char := KStar.kstar level

theorem isLower_iff : letter.isLower = true ↔ 'a' ≤ letter ∧ letter ≤ 'z' := by
  rw [show letter.isLower = (decide ('a' ≤ letter) && decide (letter ≤ 'z')) from rfl,
    Bool.and_eq_true, decide_eq_true_iff, decide_eq_true_iff]

theorem isDigit_iff {digit : Char} : digit.isDigit = true ↔ '0' ≤ digit ∧ digit ≤ '9' := by
  rw [show digit.isDigit = (decide ('0' ≤ digit) && decide (digit ≤ '9')) from rfl,
    Bool.and_eq_true, decide_eq_true_iff, decide_eq_true_iff]

theorem isDigit_eq_false_of_isLower (lower : letter.isLower = true) :
    letter.isDigit = false := by
  rw [Bool.eq_false_iff]
  intro digit
  have below := Char.le_trans (isLower_iff.mp lower).1 (isDigit_iff.mp digit).2
  exact absurd below (by decide)

theorem cons_mem_level_iff :
    letter :: number ∈ level ↔
      letter.isLower = true ∧ number ≠ [] ∧ ∀ digit ∈ number, digit.isDigit = true := by
  simp only [isLower_iff, isDigit_iff]
  constructor
  · rintro ⟨_, _, same, found⟩
    cases same
    exact found
  · exact fun found => ⟨letter, number, rfl, found⟩

/-! ## Reading -/

/-- The characters are read as these segments of a name below another. -/
inductive Reads : List Char → List Char → List Segment → Prop
  | nothing (above : List Char) : Reads above [] []
  | next {above number behind : List Char} {letter : Char} {segments : List Segment}
      (proper : letter :: number ∈ level)
      (below : Reads (above ++ letter :: number) behind segments) :
      Reads above (letter :: number ++ behind) (⟨letter, above ++ letter :: number⟩ :: segments)

theorem Reads.head_not_digit (reads : Reads above characters segments) :
    ∀ first ∈ characters.head?, first.isDigit = false := by
  cases reads with
  | nothing => simp
  | next proper below =>
      intro first head
      cases Option.some.inj head
      exact isDigit_eq_false_of_isLower (cons_mem_level_iff.mp proper).1

theorem reads_of_mem_segmentsBelow? :
    ∀ segments ∈ segmentsBelow? above characters, Reads above characters segments := by
  induction above, characters using segmentsBelow?.induct with
  | case1 above =>
      intro segments found
      rw [segmentsBelow?] at found
      cases found
      exact .nothing above
  | case2 above letter rest number proper name induction =>
      intro segments found
      rw [segmentsBelow?] at found
      rcases Option.map_eq_some_iff.mp ((if_pos proper).symm.trans found) with ⟨below, read, rfl⟩
      have split : letter :: rest = letter :: number ++ rest.dropWhile Char.isDigit := by
        simp [number]
      rw [split]
      refine .next (cons_mem_level_iff.mpr ?_) (induction below read)
      simp only [Bool.and_eq_true, Bool.not_eq_true', List.isEmpty_eq_false_iff] at proper
      exact ⟨proper.1, proper.2, fun digit member => List.mem_takeWhile_imp member⟩
  | case3 above letter rest number improper =>
      intro segments found
      rw [segmentsBelow?] at found
      cases (if_neg improper).symm.trans found

theorem Reads.segmentsBelow?_eq (reads : Reads above characters segments) :
    segmentsBelow? above characters = some segments := by
  induction reads with
  | nothing above => rw [segmentsBelow?]
  | @next above number behind letter segments proper below induction =>
      rcases cons_mem_level_iff.mp proper with ⟨lower, present, digits⟩
      -- The number ends where the next level begins.
      have ends := below.head_not_digit
      have number_eq : (number ++ behind).takeWhile Char.isDigit = number := by
        cases behind with
        | nil => simpa using digits
        | cons first rest =>
            rw [takeWhile_isDigit_append (ends first rfl), List.takeWhile_eq_self_iff]
            exact digits
      have behind_eq : (number ++ behind).dropWhile Char.isDigit = behind := by
        have whole := List.takeWhile_append_dropWhile (p := Char.isDigit) (l := number ++ behind)
        rw [number_eq] at whole
        exact List.append_cancel_left whole
      rw [List.cons_append, segmentsBelow?]
      simp [number_eq, behind_eq, lower, present, induction]

/-! ## What is read -/

theorem Reads.split {upper lower : List Segment} {segment : Segment}
    (reads : Reads above characters (upper ++ segment :: lower)) :
    ∃ part rest, characters = part ++ rest ∧ segment.name = above ++ part ∧
      Reads above part (upper ++ [segment]) ∧ Reads segment.name rest lower := by
  induction upper generalizing above characters with
  | nil =>
      cases reads with
      | @next _ number behind letter _ proper below =>
          refine ⟨letter :: number, behind, rfl, rfl, ?_, below⟩
          simpa using Reads.next proper (.nothing (above ++ letter :: number))
  | cons first upper induction =>
      cases reads with
      | @next _ number behind letter _ proper below =>
          rcases induction below with ⟨part, rest, rfl, name, before, after⟩
          exact ⟨letter :: number ++ part, rest, by simp, by simp [name], .next proper before,
            after⟩

theorem Reads.exists_words (reads : Reads above characters segments) :
    ∃ words : List (List Char), characters = words.flatten ∧ (∀ word ∈ words, word ∈ level) ∧
      List.Forall₂ (fun segment word =>
        word.head? = some segment.letter ∧ word <:+ segment.name) segments words := by
  induction reads with
  | nothing => exact ⟨[], rfl, by simp, .nil⟩
  | @next above number behind letter segments proper below induction =>
      rcases induction with ⟨words, rfl, inLevel, each⟩
      refine ⟨(letter :: number) :: words, rfl, ?_, .cons ⟨rfl, List.suffix_append _ _⟩ each⟩
      exact List.forall_mem_cons.mpr ⟨proper, inLevel⟩

theorem exists_reads (inGrammar : characters ∈ levels) (above : List Char) :
    ∃ segments, Reads above characters segments := by
  rcases Language.mem_kstar.mp inGrammar with ⟨words, rfl, each⟩
  clear inGrammar
  induction words generalizing above with
  | nil => exact ⟨[], .nothing above⟩
  | cons word words induction =>
      rcases List.forall_mem_cons.mp each with ⟨proper, others⟩
      rcases proper with ⟨letter, number, rfl, parts⟩
      rcases induction (above ++ letter :: number) others with ⟨segments, reads⟩
      exact ⟨_, .next ⟨letter, number, rfl, parts⟩ reads⟩

theorem Reads.mem_levels (reads : Reads above characters segments) : characters ∈ levels := by
  rcases reads.exists_words with ⟨words, rfl, each, _⟩
  exact Language.mem_kstar.mpr ⟨words, rfl, each⟩

/-- One name is a beginning of another and not all of it. -/
def IsShorter (upper lower : List Char) : Prop :=
  upper <+: lower ∧ upper.length < lower.length

theorem Reads.shorter_of_mem {segment : Segment} (reads : Reads above characters segments)
    (member : segment ∈ segments) : IsShorter above segment.name := by
  rcases List.append_of_mem member with ⟨upper, lower, rfl⟩
  rcases reads.split with ⟨part, rest, _, name, before, _⟩
  have something : part ≠ [] := by
    rintro rfl
    cases upper <;> cases before
  rw [name]
  exact ⟨List.prefix_append _ _, by simpa using List.length_pos_iff.mpr something⟩

theorem Reads.names_grow (reads : Reads above characters segments) :
    (segments.map Segment.name).Pairwise IsShorter := by
  induction reads with
  | nothing => exact .nil
  | next proper below induction =>
      refine .cons (fun name listed => ?_) induction
      rcases List.mem_map.mp listed with ⟨segment, member, rfl⟩
      exact below.shorter_of_mem member

/-- The segments are the levels of a name from the top down. -/
structure AreLevels (xname : String) (segments : List Segment) : Prop where
  words : ∃ words : List (List Char), xname.toList = words.flatten ∧
    (∀ word ∈ words, word ∈ level) ∧
    List.Forall₂ (fun segment word =>
      word.head? = some segment.letter ∧ word <:+ segment.name) segments words
  grow : (segments.map Segment.name).Pairwise IsShorter
  inGrammar : ∀ segment ∈ segments, segment.name ∈ levels
  cut : ∀ segment ∈ segments, segment.name <+: xname.toList ∧
    (String.ofList segment.name).rawEndPos.IsValid xname
  whole : xname = "" ∨ ∃ last ∈ segments.getLast?, last.name = xname.toList

theorem Reads.areLevels {xname : String} (reads : Reads [] xname.toList segments) :
    AreLevels xname segments where
  words := reads.exists_words
  grow := reads.names_grow
  inGrammar segment member := by
    rcases List.append_of_mem member with ⟨upper, lower, rfl⟩
    rcases reads.split with ⟨part, rest, _, name, before, _⟩
    rw [name]
    exact before.mem_levels
  cut segment member := by
    rcases List.append_of_mem member with ⟨upper, lower, rfl⟩
    rcases reads.split with ⟨part, rest, whole, name, _, _⟩
    rw [name, List.nil_append]
    refine ⟨whole ▸ List.prefix_append part rest,
      String.Pos.Raw.isValid_iff_exists_append.mpr
        ⟨String.ofList part, String.ofList rest, ?_, rfl⟩⟩
    rw [← String.toList_inj, whole]
    simp
  whole := by
    have deepest := getLastD_segmentsBelow? segments reads.segmentsBelow?_eq
    rw [List.nil_append, List.getLastD_eq_getLast?, List.getLast?_map] at deepest
    cases last : segments.getLast? with
    | none =>
        rw [last] at deepest
        exact Or.inl (String.toList_eq_nil_iff.mp deepest.symm)
    | some segment =>
        rw [last] at deepest
        exact Or.inr ⟨segment, rfl, deepest⟩

/-! ## Relatives -/

theorem exists_segments_of_board {xname : String} (isBoard : kind xname = .networkBoard) :
    ∃ upper router board, segments? xname = some (upper ++ [router, board]) ∧
      (upper ++ [router]).map Segment.letter = ['x', 'c', 'r'] := by
  unfold kind at isBoard
  split at isBoard
  · cases isBoard
  · next letters =>
    rcases Option.map_eq_some_iff.mp letters with ⟨segments, found, same⟩
    rcases List.map_eq_append_iff.mp
        (show segments.map Segment.letter = ['x', 'c'] ++ ['r', 'e'] from same) with
      ⟨upper, lower, rfl, above, below⟩
    rcases List.map_eq_cons_iff.mp below with ⟨router, _, rfl, isRouter, below⟩
    rcases List.map_eq_cons_iff.mp below with ⟨board, _, rfl, _, below⟩
    rw [List.map_eq_nil_iff.mp below] at found
    refine ⟨upper, router, board, found, ?_⟩
    rw [List.map_append, above, List.map_singleton, isRouter]
    rfl
  · cases isBoard

theorem exists_parent_of_board {xname : String} (isBoard : kind xname = .networkBoard) :
    ∃ router, parent? xname = some router ∧ kind router = .routerModule := by
  rcases exists_segments_of_board isBoard with ⟨upper, router, board, found, letters⟩
  rcases (reads_of_mem_segmentsBelow? _ found).split with ⟨part, rest, _, name, before, _⟩
  refine ⟨String.ofList router.name, by simp [parent?, found], ?_⟩
  have again : segments? (String.ofList router.name) = some (upper ++ [router]) := by
    rw [segments?, String.toList_ofList, name]
    exact before.segmentsBelow?_eq
  rw [kind, again, Option.map_some, letters]
  rfl

/-- A text is read as a component name exactly if it is made of levels, and it is read level by
level then. It is the name of a router module exactly if, with the level of its board behind it, it
is the name of a network board, and then it is the component above that board; above any network
board is a router module. -/
theorem names_are_read_by_levels (xname : String) :
    ((segments? xname).isSome = true ↔ xname.toList ∈ levels) ∧
    (∀ segments ∈ segments? xname, AreLevels xname segments) ∧
    (kind (board xname) = .networkBoard ↔ kind xname = .routerModule) ∧
    (kind xname = .routerModule → parent? (board xname) = some xname) ∧
    (kind xname = .networkBoard →
      ∃ router, parent? xname = some router ∧ kind router = .routerModule) := by
  refine ⟨⟨fun read => ?_, fun inGrammar => ?_⟩, fun segments found => ?_,
    ⟨kind_of_kind_board, kind_board⟩, parent?_board, exists_parent_of_board⟩
  · rcases Option.isSome_iff_exists.mp read with ⟨segments, found⟩
    exact (reads_of_mem_segmentsBelow? segments found).mem_levels
  · rcases exists_reads inGrammar [] with ⟨segments, reads⟩
    rw [segments?, reads.segmentsBelow?_eq]
    rfl
  · exact (reads_of_mem_segmentsBelow? segments found).areLevels

theorem board_of_router_is_read_by_levels :
    kind "x1000c0r3" = .routerModule ∧ kind "x1000c0r3e7" = .networkBoard ∧
      (∃ segments, segments? "x1000c0r3e7" = some segments ∧ AreLevels "x1000c0r3e7" segments) ∧
      parent? "x1000c0r3e0" = some "x1000c0r3" ∧
      ∃ router, parent? "x1000c0r3e7" = some router ∧ kind router = .routerModule := by
  have isRouter : kind "x1000c0r3" = .routerModule := by decide +kernel
  have isBoard : kind "x1000c0r3e7" = .networkBoard := by decide +kernel
  have read : (segments? "x1000c0r3e7").isSome = true := by decide +kernel
  rcases Option.isSome_iff_exists.mp read with ⟨segments, found⟩
  rcases names_are_read_by_levels "x1000c0r3e7" with ⟨_, areLevels, _, _, parentOfBoard⟩
  exact ⟨isRouter, isBoard, ⟨segments, found, areLevels segments found⟩,
    (names_are_read_by_levels "x1000c0r3").2.2.2.1 isRouter, parentOfBoard isBoard⟩

end ClusterPower.Xname
