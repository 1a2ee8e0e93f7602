import ClusterPower.Proofs.Coupling.Separation

/-!
Rounds are as few as they can be. A list is cut only where a name and its partner would come to
stand in one round, so that every other cut that keeps modules and their boards apart has at
least as many rounds. For a further board of a module this is not so, since it is cut off from
its module although it is not the board that the module powers.
-/

namespace ClusterPower.Coupling

variable {names round before rest : List String} {name other : String}
  {cut : List (List String)}

/-! ## Parted cuts -/

/-- No round has both a router module and the board that it powers. -/
def IsParted (cut : List (List String)) : Prop :=
  ∀ round ∈ cut, ∀ module ∈ round, Xname.kind module = .routerModule →
    Xname.board module ∉ round

instance : DecidablePred IsParted := fun cut =>
  inferInstanceAs (Decidable (∀ round ∈ cut, ∀ module ∈ round,
    Xname.kind module = .routerModule → Xname.board module ∉ round))

/-- All network boards among the names are the first ones of some modules. -/
def AreFirstBoards (names : List String) : Prop :=
  ∀ name ∈ names, Xname.kind name = .networkBoard → ∃ module, name = Xname.board module

theorem isParted_rounds (names : List String) : IsParted (rounds names) := by
  intro round run module member router boardToo
  have different : module ≠ Xname.board module := (board_ne module).symm
  rcases List.append_of_mem member with ⟨front, behind, rfl⟩
  rw [List.mem_append, List.mem_cons] at boardToo
  rcases boardToo with early | same | late
  · apply not_sublist_of_partner run (partner?_module router)
    exact (List.singleton_sublist.mpr early).append
      (List.singleton_sublist.mpr List.mem_cons_self)
  · exact different same.symm
  · apply not_sublist_of_partner run (partner?_board router)
    exact List.sublist_append_of_sublist_right
      ((List.singleton_sublist.mpr late).cons_cons module)

theorem not_mem_of_partner? (parted : IsParted cut) (run : round ∈ cut) (member : name ∈ round)
    (first : Xname.kind name = .networkBoard → ∃ module, name = Xname.board module)
    (coupled : partner? name = some other) : other ∉ round := by
  intro otherToo
  unfold partner? at coupled
  split at coupled
  · next router =>
    cases coupled
    exact parted round run name member router otherToo
  · next isBoard =>
    rcases first isBoard with ⟨module, rfl⟩
    have router := Xname.kind_of_kind_board isBoard
    rw [Xname.parent?_board router, Option.some.injEq] at coupled
    subst coupled
    exact parted round run _ otherToo router member
  · cases coupled

/-! ## Rounds of the greedy cut -/

theorem ne_nil_of_mem_roundsFrom {current : List String} (run : round ∈ roundsFrom current names) :
    round ≠ [] := by
  induction names generalizing current with
  | nil =>
      unfold roundsFrom at run
      split at run
      · cases run
      · next opened =>
        rw [List.mem_singleton.mp run]
        exact fun nothing => opened (List.isEmpty_iff.mpr nothing)
  | cons name rest induction =>
      unfold roundsFrom at run
      split at run
      · next coupled =>
        rcases List.mem_cons.mp run with rfl | later
        · rintro rfl
          cases found : partner? name <;> simp [found] at coupled
        · exact induction later
      · exact induction run

theorem exists_run_of_flatten (whole : cut.flatten = before ++ name :: rest) :
    ∃ front early late behind, cut = front ++ (early ++ name :: late) :: behind ∧
      before = front.flatten ++ early ∧ rest = late ++ behind.flatten := by
  rcases List.flatten_eq_append_iff.mp whole with
    ⟨front, behind, rfl, rfl, here⟩ | ⟨front, early, _, late, behind, rfl, rfl, here⟩
  · rcases List.flatten_eq_cons_iff.mp here.symm with ⟨empty, late, behind, rfl, none, rfl⟩
    refine ⟨front ++ empty, [], late, behind, by simp, ?_, rfl⟩
    rw [List.flatten_append, List.flatten_eq_nil_iff.mpr none, List.append_nil, List.append_nil]
  · rw [List.cons_append, List.cons.injEq] at here
    rcases here with ⟨rfl, rfl⟩
    exact ⟨front, early, late, behind, rfl, rfl, rfl⟩

theorem length_roundsFrom_le (parted : IsParted cut) (firsts : AreFirstBoards names)
    (whole : cut.flatten = before ++ (round ++ names)) :
    (roundsFrom round names).length ≤ cut.length := by
  induction names generalizing round before cut with
  | nil =>
      unfold roundsFrom
      split
      · exact Nat.zero_le _
      · next opened =>
        have listed : cut ≠ [] := by
          rintro rfl
          rw [List.flatten_nil, List.append_nil, List.nil_eq, List.append_eq_nil_iff] at whole
          exact opened (List.isEmpty_iff.mpr whole.2)
        exact List.length_pos_iff.mpr listed
  | cons name rest induction =>
      have firstsBehind : AreFirstBoards rest :=
        fun other member => firsts other (List.mem_cons_of_mem _ member)
      unfold roundsFrom
      split
      · next coupled =>
        rcases (Option.any_eq_true _ _).mp coupled with ⟨other, partner, listed⟩
        rw [List.contains_iff_mem] at listed
        rw [← List.append_assoc] at whole
        rcases exists_run_of_flatten whole with ⟨front, early, late, behind, rfl, split, tail⟩
        have apart : other ∉ early ++ name :: late :=
          not_mem_of_partner? parted (List.mem_append_right _ List.mem_cons_self)
            List.mem_append_cons_self (firsts name List.mem_cons_self) partner
        -- The partner is in an earlier run of the other cut, which is one round more.
        have ahead : front ≠ [] := by
          rintro rfl
          rw [List.flatten_nil, List.nil_append] at split
          apply apart
          rw [← split]
          exact List.mem_append_left _ (List.mem_append_right _ listed)
        have remaining : ((early ++ name :: late) :: behind).flatten =
            early ++ ([name] ++ rest) := by
          simp [tail]
        have fewer := induction
          (fun run member => parted run (List.mem_append_right _ member)) firstsBehind remaining
        rw [List.length_cons, List.length_append]
        have more := List.length_pos_iff.mpr ahead
        omega
      · have longer : cut.flatten = before ++ ((round ++ [name]) ++ rest) := by
          rw [whole, List.append_assoc, List.singleton_append]
        exact induction parted firstsBehind longer

/-! ## The fewest rounds -/

/-- A list is cut into rounds that are not empty, follow one another and keep each router module
apart from the board that it powers. If its network boards are first boards only, no other cut
that does so has fewer rounds. -/
theorem rounds_are_fewest (names : List String) :
    (∀ round ∈ rounds names, round ≠ []) ∧ (rounds names).flatten = names ∧
      IsParted (rounds names) ∧
      (AreFirstBoards names → ∀ cut : List (List String), cut.flatten = names → IsParted cut →
        (rounds names).length ≤ cut.length) :=
  ⟨fun _ => ne_nil_of_mem_roundsFrom, flatten_rounds names, isParted_rounds names,
    fun firsts _ whole parted => @length_roundsFrom_le names [] [] _ parted firsts whole⟩

theorem repeated_module_needs_three_rounds :
    let names := ["x1c0r1", "x1c0s0", "x1c0r1e0", "x1c0r2", "x1c0r1"]
    AreFirstBoards names ∧
    rounds names = [["x1c0r1", "x1c0s0"], ["x1c0r1e0", "x1c0r2"], ["x1c0r1"]] ∧
    ∀ cut : List (List String), cut.flatten = names → IsParted cut → 3 ≤ cut.length := by
  intro names
  have cut : rounds names = [["x1c0r1", "x1c0s0"], ["x1c0r1e0", "x1c0r2"], ["x1c0r1"]] := by
    decide +kernel
  have firsts : AreFirstBoards names := by
    have boards : ∀ name ∈ names, Xname.kind name = .networkBoard →
        name = Xname.board "x1c0r1" := by
      decide +kernel
    exact fun name member isBoard => ⟨_, boards name member isBoard⟩
  have fewest := (rounds_are_fewest names).2.2.2 firsts
  rw [cut] at fewest
  exact ⟨firsts, cut, fewest⟩

example : rounds ["x1c0r1", "x1c0r1e1"] = [["x1c0r1"], ["x1c0r1e1"]] ∧
    IsParted [["x1c0r1", "x1c0r1e1"]] := by
  decide +kernel

end ClusterPower.Coupling
