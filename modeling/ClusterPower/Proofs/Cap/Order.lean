import ClusterPower.Proofs.Cap.Carriage
import Mathlib.Data.List.Nodup

/-!
Power cap requests in another order. Whether a request is accepted depends on its settings alone:
no cap is set twice, and each setting keeps to its cap. Settings of different places in an array
can be put there in any order, and separate controls of one collection are addressed by whichever
comes first. So the order of the settings decides about no more than the order of the members.
-/

namespace ClusterPower.Cap

open Redfish

variable {target : Target} {settings others : List CapSetting} {planned again : Option Plan}

/-! ## Accepted requests -/

/-- A setting keeps to the bounds of its cap, which has its place in the target's array. -/
def IsWithin (target : Target) (defined : Defined) : Prop :=
  ¬IsTooLow defined.1 defined.2 ∧ ¬IsTooHigh defined.1 defined.2 ∧ ¬IsOutside target defined.2

theorem fault?_eq_none_iff {earlier : List String} {defined : Defined} :
    fault? target earlier defined = none ↔
      defined.1.name ∉ earlier ∧ IsWithin target defined := by
  simp only [fault?, IsWithin, IsTooLow, IsTooHigh, IsOutside, unbounded, List.contains_iff_mem]
  grind

theorem firstFault?_eq_none_iff {earlier : List String} {defined : List Defined} :
    firstFault? target earlier defined = none ↔
      (∀ each ∈ defined, each.1.name ∉ earlier ∧ IsWithin target each) ∧
        (defined.map (·.1.name)).Nodup := by
  induction defined generalizing earlier with
  | nil => simp [firstFault?]
  | cons first rest induction =>
      -- The names of the rest must differ from the first one and from the earlier ones.
      have apart : ∀ name, name ∉ earlier ++ [first.1.name] ↔
          name ∉ earlier ∧ first.1.name ≠ name := by
        intro name
        simp [eq_comm]
      rw [firstFault?, Option.or_eq_none_iff, fault?_eq_none_iff, induction, List.map_cons,
        List.nodup_cons, List.forall_mem_cons]
      simp only [apart, List.mem_map, not_exists, not_and]
      grind

theorem plan_eq_ok_iff_within :
    plan target settings = .ok planned ↔
      (∀ defined ∈ definedSettings target settings, IsWithin target defined) ∧
      ((definedSettings target settings).map (·.1.name)).Nodup ∧
      planDefined? target (definedSettings target settings) = planned := by
  have faultless : firstFault? target [] (definedSettings target settings) = none ↔ _ :=
    firstFault?_eq_none_iff
  simp only [List.not_mem_nil, not_false_eq_true, true_and] at faultless
  rw [← and_assoc, ← faultless]
  unfold plan
  dsimp only
  split <;> simp [*]

theorem perm_definedSettings (perm : settings.Perm others) :
    (definedSettings target settings).Perm (definedSettings target others) :=
  perm.filterMap _

/-! ## Slots -/

/-- The caps of a target have places of their own in its array. -/
def HasOwnPlaces (target : Target) : Prop :=
  (target.caps.values.map (·.index)).Nodup

instance : Decidable (HasOwnPlaces target) := inferInstanceAs (Decidable (List.Nodup _))

theorem mem_entries_of_get? {name : String} {definition : CapDefinition}
    (found : target.caps.get? name = some definition) :
    (name, definition) ∈ target.caps.entries := by
  rcases List.lookup_eq_some_iff.mp found with ⟨before, behind, split, _⟩
  rw [split]
  exact List.mem_append_cons_self

theorem eq_of_place (places : HasOwnPlaces target)
    (distinct : ((definedSettings target settings).map (·.1.name)).Nodup) {first second : Defined}
    (firstMember : first ∈ definedSettings target settings)
    (secondMember : second ∈ definedSettings target settings)
    (same : first.2.index = second.2.index) : first = second := by
  have found := (mem_definedSettings_iff.mp firstMember).2
  have alsoFound := (mem_definedSettings_iff.mp secondMember).2
  rw [HasOwnPlaces, Table.values, List.map_map] at places
  have entry := List.inj_on_of_nodup_map places (mem_entries_of_get? found)
    (mem_entries_of_get? alsoFound) same
  exact List.inj_on_of_nodup_map distinct firstMember secondMember (congrArg Prod.fst entry)

theorem slots_perm (places : HasOwnPlaces target)
    (distinct : ((definedSettings target settings).map (·.1.name)).Nodup)
    (perm : settings.Perm others) (count : Nat) :
    slots count (definedSettings target settings) =
      slots count (definedSettings target others) := by
  rw [slots_eq_foldl, slots_eq_foldl]
  apply (perm_definedSettings perm).foldl_eq'
  intro first firstMember second secondMember controls
  by_cases same : first.2.index = second.2.index
  · rw [eq_of_place places distinct firstMember secondMember same]
  · exact List.set_comm _ _ same

/-! ## Plans -/

/-- The caps of a target belong to one collection. -/
def HasOneCollection (target : Target) : Prop :=
  ∀ one ∈ target.caps.values, ∀ other ∈ target.caps.values,
    Path.parent (Path.parent one.path) = Path.parent (Path.parent other.path)

instance : Decidable (HasOneCollection target) :=
  inferInstanceAs (Decidable (∀ one ∈ target.caps.values, ∀ other ∈ target.caps.values, _))

theorem mem_values_of_get? {name : String} {definition : CapDefinition}
    (found : target.caps.get? name = some definition) : definition ∈ target.caps.values :=
  List.mem_map.mpr ⟨_, mem_entries_of_get? found, rfl⟩

theorem planDefined?_of_indexed (style : target.traits.capStyle = .indexed)
    {defined : List Defined} (present : defined ≠ []) :
    planDefined? target defined = some ⟨target, .indexed (slots target.slotCount defined)⟩ := by
  cases defined with
  | nil => exact absurd rfl present
  | cons first rest => rw [planDefined?, style]

theorem planDefined?_of_members (style : target.traits.capStyle = .members)
    (collection : HasOneCollection target) {defined : Defined}
    (member : defined ∈ definedSettings target settings) :
    planDefined? target (definedSettings target settings) =
      some ⟨target.withPowerPath (collectionPath defined.2.path),
        .members ⟨(definedSettings target settings).map Cap.member⟩⟩ := by
  have held {each : Defined} (member : each ∈ definedSettings target settings) :=
    mem_values_of_get? (mem_definedSettings_iff.mp member).2
  cases split : definedSettings target settings with
  | nil =>
      rw [split] at member
      cases member
  | cons first rest =>
      have here : first ∈ definedSettings target settings := split ▸ List.mem_cons_self
      rw [planDefined?, style, collectionPath, collectionPath,
        collection _ (held here) _ (held member)]

/-- A request that is accepted is accepted in any other order. For an array the plan is the same.
For separate controls of one collection the same resource is addressed, and the members are in
the order of the settings that they are for. -/
theorem accepted_in_any_order (places : target.traits.capStyle = .indexed → HasOwnPlaces target)
    (collection : target.traits.capStyle = .members → HasOneCollection target)
    (accepted : plan target settings = .ok planned) (perm : settings.Perm others) :
    ∃ again, plan target others = .ok again ∧
      (target.traits.capStyle = .indexed → again = planned) ∧
      (target.traits.capStyle = .members →
        (planned = none ∧ again = none) ∨
        ∃ sent members permuted,
          planned = some ⟨sent, .members ⟨members⟩⟩ ∧
          again = some ⟨sent, .members ⟨permuted⟩⟩ ∧
          members.length = (definedSettings target settings).length ∧
          permuted.length = (definedSettings target others).length ∧
          ((definedSettings target settings).zip members).Perm
            ((definedSettings target others).zip permuted)) := by
  rcases plan_eq_ok_iff_within.mp accepted with ⟨within, distinct, rfl⟩
  have permuted : (definedSettings target settings).Perm (definedSettings target others) :=
    perm_definedSettings perm
  have again := plan_eq_ok_iff_within.mpr
    ⟨fun each member => within each (permuted.mem_iff.mpr member),
      (permuted.map _).nodup_iff.mp distinct, rfl⟩
  have empty : definedSettings target settings = [] ↔ definedSettings target others = [] := by
    rw [← List.length_eq_zero_iff, permuted.length_eq, List.length_eq_zero_iff]
  refine ⟨_, again, fun style => ?_, fun style => ?_⟩
  · by_cases nothing : definedSettings target settings = []
    · rw [nothing, empty.mp nothing]
    · rw [planDefined?_of_indexed style nothing,
        planDefined?_of_indexed style (mt empty.mpr nothing),
        slots_perm (places style) distinct perm]
  · by_cases nothing : definedSettings target settings = []
    · left
      exact ⟨planDefined?_eq_none_iff.mpr nothing, planDefined?_eq_none_iff.mpr (empty.mp nothing)⟩
    · right
      rcases List.exists_mem_of_ne_nil _ nothing with ⟨defined, member⟩
      refine ⟨_, _, _, planDefined?_of_members style (collection style) member,
        planDefined?_of_members style (collection style) (permuted.mem_iff.mp member),
        List.length_map _, List.length_map _, ?_⟩
      rw [← List.map_prod_left_eq_zip, ← List.map_prod_left_eq_zip]
      exact permuted.map _

theorem two_caps_in_either_order :
    let caps : Table CapDefinition := .ofList [
      ("node", { name := "node", path := "/c/Controls/node", index := 1 }),
      ("accelerator", { name := "accelerator", path := "/c/Controls/a/" })]
    let target (style : CapStyle) : Target :=
      { slotCount := 2, caps, traits := { capStyle := style } }
    let settings : List CapSetting := [⟨"node", 500⟩, ⟨"fan", 9⟩, ⟨"accelerator", 0⟩]
    (∃ planned, plan (target .indexed) settings = .ok (some planned) ∧
      plan (target .indexed) settings.reverse = .ok (some planned)) ∧
    ∃ sent members permuted,
      plan (target .members) settings = .ok (some ⟨sent, .members ⟨members⟩⟩) ∧
      plan (target .members) settings.reverse = .ok (some ⟨sent, .members ⟨permuted⟩⟩) ∧
      ((definedSettings (target .members) settings).zip members).Perm
        ((definedSettings (target .members) settings.reverse).zip permuted) := by
  intro caps target settings
  have reversed : settings.Perm settings.reverse := settings.reverse_perm.symm
  have places : HasOwnPlaces (target .indexed) := by decide +kernel
  have collection : HasOneCollection (target .members) := by decide +kernel
  constructor
  · rcases exists_plan (target .indexed) settings (by decide +kernel) (by decide +kernel) with
      ⟨planned, accepted, _⟩
    rcases accepted_in_any_order (fun _ => places) (fun style => by cases style) accepted
        reversed with
      ⟨again, alsoAccepted, same, _⟩
    exact ⟨planned, accepted, same rfl ▸ alsoAccepted⟩
  · rcases exists_plan (target .members) settings (by decide +kernel) (by decide +kernel) with
      ⟨planned, accepted, _⟩
    rcases accepted_in_any_order (fun style => by cases style) (fun _ => collection) accepted
        reversed with
      ⟨again, alsoAccepted, _, permuted⟩
    rcases permuted rfl with ⟨none, _⟩ | ⟨sent, members, permuted, first, second, _, _, perm⟩
    · cases none
    · exact ⟨sent, members, permuted, first ▸ accepted, second ▸ alsoAccepted, perm⟩

end ClusterPower.Cap
