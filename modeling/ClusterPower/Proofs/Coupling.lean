import ClusterPower.Coupling
import Mathlib.Data.List.Basic
import ClusterPower.Proofs.Sorting

/-!
Coupled components keep their names. Cutting a list into rounds neither drops nor repeats
one, and arranging a list adds the boards of its modules, and nothing else.
-/

namespace ClusterPower.Coupling

variable {anchor name xname : String} {names : List String}

/-! ## Rounds -/

theorem flatten_roundsFrom (round names : List String) :
    (roundsFrom round names).flatten = round ++ names := by
  induction names generalizing round with
  | nil =>
      cases round with
      | nil => rfl
      | cons first rest => simp [roundsFrom]
  | cons xname rest induction =>
      unfold roundsFrom
      split
      · rw [List.flatten_cons, induction, List.singleton_append]
      · rw [induction, List.append_assoc, List.singleton_append]

theorem flatten_rounds (names : List String) : (rounds names).flatten = names :=
  flatten_roundsFrom [] names

/-! ## Placing a board -/

theorem insertAfter_perm (present : anchor ∈ names) :
    (insertAfter anchor name names).Perm (name :: names) := by
  induction names with
  | nil => cases present
  | cons first rest induction =>
      unfold insertAfter
      split
      · exact .swap name first rest
      · next other =>
        have later := (List.mem_cons.mp present).resolve_left (Ne.symm other)
        exact ((induction later).cons first).trans (.swap name first rest)

theorem insertBefore_perm (present : anchor ∈ names) :
    (insertBefore anchor name names).Perm (name :: names) := by
  induction names with
  | nil => cases present
  | cons first rest induction =>
      unfold insertBefore
      split
      · exact .refl _
      · next other =>
        have later := (List.mem_cons.mp present).resolve_left (Ne.symm other)
        exact ((induction later).cons first).trans (.swap name first rest)

theorem mem_of_precedes {earlier later : String} (before : precedes earlier later names = true) :
    earlier ∈ names ∧ later ∈ names := by
  induction names with
  | nil => cases before
  | cons first rest induction =>
      unfold precedes at before
      split at before
      · next same =>
        rw [List.contains_iff_mem] at before
        exact ⟨same ▸ List.mem_cons_self, List.mem_cons_of_mem _ before⟩
      · split at before
        · cases before
        · exact ⟨List.mem_cons_of_mem _ (induction before).1,
            List.mem_cons_of_mem _ (induction before).2⟩

theorem board_ne (module : String) : Xname.board module ≠ module := by
  intro same
  have length := congrArg String.length same
  rw [Xname.board, String.length_append] at length
  have extra : "e0".length = 2 := by decide
  omega

theorem placeBoard_cases (transition : Transition) {module : String} (present : module ∈ names) :
    (placeBoard transition names module = names ∧ Xname.board module ∈ names) ∨
      (placeBoard transition names module).Perm
        (Xname.board module :: names.erase (Xname.board module)) := by
  have stays : module ∈ names.erase (Xname.board module) :=
    (List.mem_erase_of_ne (board_ne module).symm).mpr present
  unfold placeBoard
  dsimp only
  split
  · split
    · next before => exact Or.inl ⟨rfl, (mem_of_precedes before).2⟩
    · exact Or.inr (insertAfter_perm stays)
  · split
    · next before => exact Or.inl ⟨rfl, (mem_of_precedes before).1⟩
    · exact Or.inr (insertBefore_perm stays)

theorem mem_placeBoard (transition : Transition) {module : String} (present : module ∈ names) :
    xname ∈ placeBoard transition names module ↔ xname ∈ names ∨ xname = Xname.board module := by
  by_cases same : xname = Xname.board module
  · rcases placeBoard_cases transition present with ⟨kept, listed⟩ | placed
    · simp [kept, same, listed]
    · simp [placed.mem_iff, same]
  · rcases placeBoard_cases transition present with ⟨kept, _⟩ | placed
    · simp [kept, same]
    · simp [placed.mem_iff, same, List.mem_erase_of_ne]

theorem nodup_placeBoard (transition : Transition) {module : String} (present : module ∈ names)
    (distinct : names.Nodup) : (placeBoard transition names module).Nodup := by
  rcases placeBoard_cases transition present with ⟨kept, _⟩ | placed
  · rwa [kept]
  · rw [placed.nodup_iff, List.nodup_cons]
    exact ⟨distinct.not_mem_erase, distinct.erase _⟩

/-! ## Arranging -/

theorem placeBoards (transition : Transition) {modules : List String}
    (present : ∀ module ∈ modules, module ∈ names) (distinct : names.Nodup) :
    (modules.foldl (placeBoard transition) names).Nodup ∧
    ∀ xname, xname ∈ modules.foldl (placeBoard transition) names ↔
      xname ∈ names ∨ ∃ module ∈ modules, xname = Xname.board module := by
  induction modules generalizing names with
  | nil => exact ⟨distinct, fun xname => by simp⟩
  | cons module rest induction =>
      have here := present module List.mem_cons_self
      have stay : ∀ other ∈ rest, other ∈ placeBoard transition names module :=
        fun other listed => (mem_placeBoard transition here).mpr
          (Or.inl (present other (List.mem_cons_of_mem _ listed)))
      have later := induction stay (nodup_placeBoard transition here distinct)
      refine ⟨later.1, fun xname => ?_⟩
      rw [List.foldl_cons, later.2, mem_placeBoard transition here, or_assoc]
      simp

variable (inventory : Inventory) (transition : Transition) (targets : List String)

theorem nodup_arrange : (arrange inventory transition targets).Nodup := by
  unfold arrange
  split
  · exact (placeBoards transition (fun _ listed => List.mem_of_mem_filter listed)
      (nodup_eraseDups targets)).1
  · exact nodup_eraseDups targets

theorem mem_arrange :
    xname ∈ arrange inventory transition targets ↔
      xname ∈ targets ∨ (transition.isOn || transition.isOff) = true ∧
        ∃ module ∈ targets, powersBoard inventory module = true ∧
          xname = Xname.board module := by
  unfold arrange
  split
  · next arranged =>
    rw [(placeBoards transition (fun _ listed => List.mem_of_mem_filter listed)
      (nodup_eraseDups targets)).2]
    simp [arranged, and_assoc]
  · next kept => simp [kept]

end ClusterPower.Coupling
