import ClusterPower.Proofs.Coupling.Separation

/-!
Arranged lists stay as they are. A list is arranged exactly when no name is repeated and every
module that powers its board stands on the right side of it, and arranging a list makes it so;
to arrange it once more changes nothing.
-/

namespace ClusterPower.Coupling

variable {inventory : Inventory} {transition : Transition} {names modules : List String}
  {module : String}

theorem foldl_placeBoard_eq_self (distinct : names.Nodup)
    (present : ∀ module ∈ modules, module ∈ names)
    (ordered : ∀ module ∈ modules, (pair transition module).Sublist names) :
    modules.foldl (placeBoard transition) names = names := by
  induction modules with
  | nil => rfl
  | cons module rest induction =>
      have kept : placeBoard transition names module = names := by
        rcases placeBoard_split transition distinct (present module List.mem_cons_self) with
          ⟨_, kept⟩ | ⟨misplaced, _⟩
        · exact kept
        · exact absurd (ordered module List.mem_cons_self) misplaced
      rw [List.foldl_cons, kept]
      apply induction
      · exact fun other member => present other (List.mem_cons_of_mem _ member)
      · exact fun other member => ordered other (List.mem_cons_of_mem _ member)

/-- Every module that powers its board stands on the side of it that the transition asks for. -/
def IsOrdered (inventory : Inventory) (transition : Transition) (names : List String) : Prop :=
  ∀ module ∈ names, powersBoard inventory module = true → (pair transition module).Sublist names

theorem arrange_eq_self (distinct : names.Nodup)
    (ordered : (transition.isOn || transition.isOff) = true →
      IsOrdered inventory transition names) :
    arrange inventory transition names = names := by
  unfold arrange
  rw [eraseDups_of_nodup distinct]
  split
  · next moved =>
    apply foldl_placeBoard_eq_self distinct
    · exact fun module member => List.mem_of_mem_filter member
    · intro module member
      rw [List.mem_filter] at member
      exact ordered moved module member.1 member.2
  · rfl

theorem isOrdered_arrange (inventory : Inventory) (targets : List String)
    (moved : (transition.isOn || transition.isOff) = true) :
    IsOrdered inventory transition (arrange inventory transition targets) := by
  intro module member powers
  apply pair_sublist_arrange moved _ powers
  rw [mem_arrange] at member
  rcases member with listed | ⟨_, powering, _, powersOther, rfl⟩
  · exact listed
  · have board := Xname.kind_board (powersBoard_iff.mp powersOther).1
    rw [(powersBoard_iff.mp powers).1] at board
    cases board

/-- To arrange a request twice is to arrange it once. The lists that stay as they are are those
without repetitions in which every router module of a mountain or hill cabinet has its board
behind it, when power comes on, or ahead of it, when power goes off; to any other transition the
boards do not matter. -/
theorem arranged_stays_arranged (inventory : Inventory) (transition : Transition)
    (targets : List String) :
    arrange inventory transition (arrange inventory transition targets) =
      arrange inventory transition targets ∧
    ∀ names, arrange inventory transition names = names ↔
      names.Nodup ∧ ∀ module ∈ names, Xname.kind module = .routerModule →
        (inventory.cabinetClass module = some .mountain ∨
          inventory.cabinetClass module = some .hill) →
        (transition.isOn = true → [module, Xname.board module].Sublist names) ∧
        (transition.isOff = true → [Xname.board module, module].Sublist names) := by
  refine ⟨?_, fun names => ⟨fun stays => ?_, fun ⟨distinct, sides⟩ => ?_⟩⟩
  · exact arrange_eq_self (nodup_arrange inventory transition targets)
      (isOrdered_arrange inventory targets)
  · have distinct := nodup_arrange inventory transition names
    rw [stays] at distinct
    refine ⟨distinct, fun module member router cabinet => ?_⟩
    have powers := powersBoard_iff.mpr ⟨router, cabinet⟩
    have ordered (moved : (transition.isOn || transition.isOff) = true) :=
      isOrdered_arrange inventory names moved
    rw [stays] at ordered
    constructor
    · intro on
      have side := ordered (by rw [on, Bool.true_or]) module member powers
      rwa [pair, if_pos on] at side
    · intro off
      have side := ordered (by rw [off, Bool.or_true]) module member powers
      rwa [pair_of_isOff off] at side
  · apply arrange_eq_self distinct
    intro moved module member powers
    rw [powersBoard_iff] at powers
    have side := sides module member powers.1 powers.2
    rcases (Bool.or_eq_true _ _).mp moved with on | off
    · rw [pair, if_pos on]
      exact side.1 on
    · rw [pair_of_isOff off]
      exact side.2 off

/-- Two pairs, one around the other, are left as they are, and a list that has been put in order
stays so. -/
theorem nested_pairs_stay_arranged :
    let inventory : Inventory := ⟨fun _ => some .hill, fun _ => none⟩
    let names := ["x1c0r2e0", "x1c0r1e0", "x1c0s0", "x1c0r1", "x1c0r2"]
    let targets := ["x1c0r1", "x1c0r2", "x1c0s0", "x1c0r1e0", "x1c0r1"]
    names.Nodup ∧ arrange inventory .off names = names ∧
    arrange inventory .off targets = ["x1c0r1e0", "x1c0r1", "x1c0r2e0", "x1c0r2", "x1c0s0"] ∧
    arrange inventory .off (arrange inventory .off targets) =
      arrange inventory .off targets := by
  intro inventory names targets
  have distinct : names.Nodup := by decide +kernel
  have sides : ∀ module ∈ names, Xname.kind module = .routerModule →
      (inventory.cabinetClass module = some .mountain ∨
        inventory.cabinetClass module = some .hill) →
      (Transition.off.isOn = true → [module, Xname.board module].Sublist names) ∧
      (Transition.off.isOff = true → [Xname.board module, module].Sublist names) := by
    decide +kernel
  have stable := arranged_stays_arranged inventory .off targets
  exact ⟨distinct, (stable.2 names).mpr ⟨distinct, sides⟩, by decide +kernel, stable.1⟩

end ClusterPower.Coupling
