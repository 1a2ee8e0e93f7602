import ClusterPower.Xname
import Mathlib.Data.List.TakeWhile

/-!
Names one level further down. A level that is put behind a component name becomes its last
segment, so that the board of a router module is itself a network board.
-/

namespace ClusterPower.Xname

variable {letter : Char} {rest behind number : List Char}

theorem takeWhile_isDigit_append (other : letter.isDigit = false) :
    (rest ++ letter :: behind).takeWhile Char.isDigit = rest.takeWhile Char.isDigit := by
  rw [List.takeWhile_append]
  split
  · next whole =>
    rw [List.takeWhile_cons_of_neg (by simp [other]), List.append_nil]
    exact ((List.takeWhile_prefix _).eq_of_length whole).symm
  · rfl

theorem dropWhile_isDigit_append (other : letter.isDigit = false) :
    (rest ++ letter :: behind).dropWhile Char.isDigit =
      rest.dropWhile Char.isDigit ++ letter :: behind := by
  rw [List.dropWhile_append]
  split
  · next nothing =>
    rw [List.isEmpty_iff.mp nothing, List.dropWhile_cons_of_neg (by simp [other]),
      List.nil_append]
  · rfl

theorem segmentsBelow?_level {above : List Char} (lower : letter.isLower = true)
    (present : number ≠ []) (digits : ∀ digit ∈ number, digit.isDigit = true) :
    segmentsBelow? above (letter :: number) = some [⟨letter, above ++ letter :: number⟩] := by
  rw [segmentsBelow?]
  simp only [List.takeWhile_eq_self_iff.mpr digits, List.dropWhile_eq_nil_iff.mpr digits, lower,
    Bool.true_and]
  rw [if_pos (by simpa using present), segmentsBelow?]
  rfl

theorem segmentsBelow?_append {above characters : List Char} (lower : letter.isLower = true)
    (other : letter.isDigit = false) (present : number ≠ [])
    (digits : ∀ digit ∈ number, digit.isDigit = true) :
    segmentsBelow? above (characters ++ letter :: number) =
      (segmentsBelow? above characters).map
        (· ++ [⟨letter, above ++ characters ++ letter :: number⟩]) := by
  induction above, characters using segmentsBelow?.induct with
  | case1 above =>
      rw [List.nil_append, List.append_nil, segmentsBelow?_level lower present digits,
        segmentsBelow?]
      rfl
  | case2 above first rest number' proper name induction =>
      have whole : name ++ rest.dropWhile Char.isDigit = above ++ first :: rest := by
        simp only [name, number', List.append_assoc, List.cons_append,
          List.takeWhile_append_dropWhile]
      rw [List.cons_append, segmentsBelow?, segmentsBelow?]
      simp only [takeWhile_isDigit_append other, dropWhile_isDigit_append other]
      rw [if_pos proper, if_pos proper, induction, whole, Option.map_map, Option.map_map]
      rfl
  | case3 above first rest number' improper =>
      rw [List.cons_append, segmentsBelow?, segmentsBelow?]
      simp only [takeWhile_isDigit_append other]
      rw [if_neg improper, if_neg improper]
      rfl

theorem segments?_board (module : String) :
    segments? (board module) =
      (segments? module).map (· ++ [⟨'e', (board module).toList⟩]) := by
  have split : (board module).toList = module.toList ++ ['e', '0'] := String.toList_append
  rw [segments?, segments?, split]
  exact segmentsBelow?_append rfl rfl (List.cons_ne_nil _ _) (List.forall_mem_singleton.mpr rfl)

theorem kind_board {module : String} (router : kind module = .routerModule) :
    kind (board module) = .networkBoard := by
  unfold kind at router ⊢
  rw [segments?_board]
  split at router
  · next letters =>
    rcases Option.map_eq_some_iff.mp letters with ⟨segments, found, same⟩
    rw [found]
    simp [same]
  · cases router
  · cases router

theorem kind_of_kind_board {module : String} (isBoard : kind (board module) = .networkBoard) :
    kind module = .routerModule := by
  unfold kind at isBoard ⊢
  rw [segments?_board] at isBoard
  cases found : segments? module with
  | none =>
      rw [found] at isBoard
      cases isBoard
  | some segments =>
      rw [found] at isBoard
      split at isBoard
      · cases isBoard
      · next letters =>
        simp only [Option.map_some, List.map_append, List.map_cons, List.map_nil,
          Option.some.injEq] at letters
        have above := List.append_cancel_right
          (show segments.map Segment.letter ++ ['e'] = ['x', 'c', 'r'] ++ ['e'] from letters)
        rw [Option.map_some, above]
        rfl
      · cases isBoard

theorem getLastD_segmentsBelow? {above characters : List Char} :
    ∀ segments ∈ segmentsBelow? above characters,
      (segments.map Segment.name).getLastD above = above ++ characters := by
  induction above, characters using segmentsBelow?.induct with
  | case1 above =>
      intro segments found
      rw [segmentsBelow?, Option.mem_some_iff] at found
      simp [← found]
  | case2 above first rest number proper name induction =>
      intro segments found
      have whole : name ++ rest.dropWhile Char.isDigit = above ++ first :: rest := by
        simp only [name, number, List.append_assoc, List.cons_append,
          List.takeWhile_append_dropWhile]
      rw [segmentsBelow?] at found
      rcases Option.map_eq_some_iff.mp ((if_pos proper).symm.trans found)
        with ⟨below, read, rfl⟩
      rw [List.map_cons, List.getLastD_cons, induction below read, whole]
  | case3 above first rest number improper =>
      intro segments found
      rw [segmentsBelow?] at found
      cases (if_neg improper).symm.trans found

theorem parent?_board {module : String} (router : kind module = .routerModule) :
    parent? (board module) = some module := by
  unfold kind at router
  split at router
  · next letters =>
    rcases Option.map_eq_some_iff.mp letters with ⟨segments, found, same⟩
    have deepest := getLastD_segmentsBelow? segments found
    rcases List.map_eq_cons_iff.mp same with ⟨_, _, rfl, _, below⟩
    rcases List.map_eq_cons_iff.mp below with ⟨_, _, rfl, _, below⟩
    rcases List.map_eq_cons_iff.mp below with ⟨last, _, rfl, _, below⟩
    rw [List.map_eq_nil_iff.mp below] at found deepest
    have whole : last.name = module.toList := deepest
    rw [parent?, segments?_board, found]
    simp [whole]
  · cases router
  · cases router

theorem board_injective {left right : String} (same : board left = board right) :
    left = right := by
  rw [← String.toList_inj] at same ⊢
  simpa [board] using same

end ClusterPower.Xname
