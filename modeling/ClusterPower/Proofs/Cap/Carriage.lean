import ClusterPower.Proofs.Cap.Offences
import Mathlib.Data.List.Forall2

/-!
What a power cap request carries. An accepted setting reaches its place in the payload with
the very value asked for, unless a later setting takes the same place: that of the same index
in an array, or the only zone. Among separate controls every setting has a member of its own,
which is disabled at nothing or less.
-/

namespace ClusterPower.Cap

open Redfish

variable {target : Target} {settings : List CapSetting} {setting : CapSetting}
  {definition : CapDefinition} {planned : Plan}

/-! ## Payloads and settings -/

/-- The payload has the value of a setting in the place of the cap. -/
def Payload.Carries (setting : CapSetting) (definition : CapDefinition) : Payload → Prop
  | .indexed controls =>
      ∃ control ∈ controls[definition.index]?, control.limit = some ⟨some setting.watts⟩
  | .posted limits => ∃ limit ∈ limits.limits, limit.watts = some setting.watts
  | .members collection => ∃ member ∈ collection.members,
      member.id = definition.path ∧ member.setPoint = some setting.watts

instance (setting : CapSetting) (definition : CapDefinition) :
    DecidablePred (Payload.Carries setting definition)
  | .indexed controls => inferInstanceAs (Decidable (∃ control ∈ controls[definition.index]?, _))
  | .posted limits => inferInstanceAs (Decidable (∃ limit ∈ limits.limits, _))
  | .members collection => inferInstanceAs (Decidable (∃ member ∈ collection.members, _))

/-- The shape of a payload is the one that a style asks for. -/
def Payload.Suits : CapStyle → Payload → Prop
  | .indexed, .indexed _ => True
  | .posted, .posted _ => True
  | .members, .members _ => True
  | _, _ => False

/-- Some setting behind takes the place of a cap. -/
def IsReplaced (target : Target) (definition : CapDefinition) (behind : List CapSetting) : Prop :=
  ∃ other ∈ behind, ∃ place, target.caps.get? other.name = some place ∧
    match target.traits.capStyle with
    | .indexed => place.index = definition.index
    | .posted => True
    | .members => False

/-- The member for a setting of a cap that the target has. -/
def IsMemberFor (target : Target) (setting : CapSetting) (member : ControlMember) : Prop :=
  ∃ definition, target.caps.get? setting.name = some definition ∧ member.id = definition.path ∧
    (member.mode = .disabled ↔ setting.watts ≤ 0) ∧
    member.setPoint = if 0 < setting.watts then some setting.watts else none

theorem definedSettings_append (target : Target) (before behind : List CapSetting) :
    definedSettings target (before ++ behind) =
      definedSettings target before ++ definedSettings target behind :=
  List.filterMap_append

theorem definedSettings_cons (defined : target.caps.get? setting.name = some definition)
    (behind : List CapSetting) :
    definedSettings target (setting :: behind) =
      (setting, definition) :: definedSettings target behind := by
  simp [definedSettings, defined]

theorem definedSettings_cons_none (absent : target.caps.get? setting.name = none)
    (behind : List CapSetting) :
    definedSettings target (setting :: behind) = definedSettings target behind := by
  simp [definedSettings, absent]

theorem mem_definedSettings_iff {defined : Defined} :
    defined ∈ definedSettings target settings ↔
      defined.1 ∈ settings ∧ target.caps.get? defined.1.name = some defined.2 := by
  obtain ⟨setting, definition⟩ := defined
  simp only [definedSettings, List.mem_filterMap, Option.map_eq_some_iff, Prod.mk.injEq]
  constructor
  · rintro ⟨_, member, _, defined, rfl, rfl⟩
    exact ⟨member, defined⟩
  · rintro ⟨member, defined⟩
    exact ⟨setting, member, definition, defined, rfl, rfl⟩

/-! ## The indexed array -/

def place (controls : List PowerControl) (defined : Defined) : List PowerControl :=
  controls.set defined.2.index { limit := some { watts := some defined.1.watts } }

theorem slots_eq_foldl (count : Nat) (defined : List Defined) :
    slots count defined = defined.foldl place (List.replicate count {}) := rfl

theorem length_foldl_place (defined : List Defined) (controls : List PowerControl) :
    (defined.foldl place controls).length = controls.length := by
  induction defined generalizing controls with
  | nil => rfl
  | cons first rest induction => rw [List.foldl_cons, induction, place, List.length_set]

theorem getElem?_foldl_place {index : Nat} {defined : List Defined}
    (elsewhere : ∀ other ∈ defined, other.2.index ≠ index) (controls : List PowerControl) :
    (defined.foldl place controls)[index]? = controls[index]? := by
  induction defined generalizing controls with
  | nil => rfl
  | cons first rest induction =>
      rcases List.forall_mem_cons.mp elsewhere with ⟨firstElsewhere, restElsewhere⟩
      rw [List.foldl_cons, induction restElsewhere, place, List.getElem?_set_ne firstElsewhere]

theorem getElem?_slots {count : Nat} (before : List Defined) {behind : List Defined}
    (inside : definition.index < count)
    (elsewhere : ∀ other ∈ behind, other.2.index ≠ definition.index) :
    (slots count (before ++ (setting, definition) :: behind))[definition.index]? =
      some { limit := some { watts := some setting.watts } } := by
  rw [slots_eq_foldl, List.foldl_append, List.foldl_cons, getElem?_foldl_place elsewhere, place]
  apply List.getElem?_set_self
  rwa [length_foldl_place, List.length_replicate]

/-! ## Members -/

theorem isMemberFor_member (defined : target.caps.get? setting.name = some definition) :
    IsMemberFor target setting (member (setting, definition)) := by
  refine ⟨definition, defined, ?_⟩
  unfold member
  by_cases positive : 0 < setting.watts
  · simp [positive]
  · simp [positive, Int.not_lt.mp positive]

theorem members_forall₂ (target : Target) (settings : List CapSetting) :
    List.Forall₂ (IsMemberFor target)
      (settings.filter fun setting => (target.caps.get? setting.name).isSome)
      ((definedSettings target settings).map member) := by
  induction settings with
  | nil => exact .nil
  | cons setting rest induction =>
      cases defined : target.caps.get? setting.name with
      | none =>
          rw [definedSettings_cons_none defined, List.filter_cons_of_neg (by simp [defined])]
          exact induction
      | some definition =>
          rw [definedSettings_cons defined, List.filter_cons_of_pos (by simp [defined])]
          exact .cons (isMemberFor_member defined) induction

/-! ## Accepted requests -/

def payloadOf (target : Target) (defined : List Defined) : Payload :=
  match target.traits.capStyle with
  | .indexed => .indexed (slots target.slotCount defined)
  | .posted => .posted ⟨defined.getLast?.toList.map fun last => zoneLimit last.1⟩
  | .members => .members ⟨defined.map member⟩

theorem payload_of_plan (accepted : plan target settings = .ok (some planned)) :
    planned.payload = payloadOf target (definedSettings target settings) := by
  have shape := (plan_eq_ok_iff.mp accepted).2
  cases split : definedSettings target settings with
  | nil =>
      rw [split] at shape
      cases shape
  | cons first rest =>
      rw [split] at shape
      unfold payloadOf
      cases style : target.traits.capStyle with
      | indexed =>
          simp only [planDefined?, style, Option.some.injEq] at shape
          rw [← shape]
      | posted =>
          simp only [planDefined?, style, Option.some.injEq] at shape
          rw [← shape]
          simp [List.getLast?_cons]
      | members =>
          simp only [planDefined?, style, Option.some.injEq] at shape
          rw [← shape]

theorem suits_payloadOf (target : Target) (defined : List Defined) :
    (payloadOf target defined).Suits target.traits.capStyle := by
  unfold payloadOf
  cases target.traits.capStyle <;> trivial

theorem payloadOf_carries {before behind : List Defined}
    (inside : target.traits.capStyle = .indexed → definition.index < target.slotCount)
    (elsewhere : target.traits.capStyle = .indexed →
      ∀ other ∈ behind, other.2.index ≠ definition.index)
    (last : target.traits.capStyle = .posted → behind = [])
    (positive : target.traits.capStyle = .members → 0 < setting.watts) :
    (payloadOf target (before ++ (setting, definition) :: behind)).Carries setting definition := by
  unfold payloadOf
  cases style : target.traits.capStyle with
  | indexed => exact ⟨_, getElem?_slots before (inside style) (elsewhere style), rfl⟩
  | posted =>
      rw [last style]
      exact ⟨zoneLimit setting, by simp, rfl⟩
  | members =>
      refine ⟨member (setting, definition), by simp, ?_⟩
      simp [member, positive style]

theorem exists_plan (target : Target) (settings : List CapSetting)
    (faultless : remainingFault? target [] settings = none)
    (defined : definedSettings target settings ≠ []) :
    ∃ planned, plan target settings = .ok (some planned) ∧
      planned.payload = payloadOf target (definedSettings target settings) := by
  rcases Option.ne_none_iff_exists'.mp (mt planDefined?_eq_none_iff.mp defined) with
    ⟨planned, shape⟩
  have accepted := plan_eq_ok_iff.mpr ⟨remainingFault?_eq_none_iff.mp faultless, shape⟩
  exact ⟨planned, accepted, payload_of_plan accepted⟩

/-- An accepted request carries the value of each setting whose place no later setting takes,
among separate controls if it is positive. There every setting of the target's caps has its own
member in order, which is disabled exactly at nothing or less. -/
theorem plan_carries_settings (accepted : plan target settings = .ok (some planned)) :
    planned.payload.Suits target.traits.capStyle ∧
    (∀ before setting behind definition, settings = before ++ setting :: behind →
      target.caps.get? setting.name = some definition → ¬IsReplaced target definition behind →
      (target.traits.capStyle = .members → 0 < setting.watts) →
      planned.payload.Carries setting definition) ∧
    ∀ collection, planned.payload = .members collection →
      List.Forall₂ (IsMemberFor target)
        (settings.filter fun setting => (target.caps.get? setting.name).isSome)
        collection.members := by
  rw [payload_of_plan accepted]
  refine ⟨suits_payloadOf _ _, ?_, ?_⟩
  · rintro before setting behind definition rfl defined kept positive
    -- An accepted setting does not offend, which is what keeps its index in the array.
    have innocent := (plan_eq_ok_iff.mp accepted).1 before setting behind rfl
    rw [definedSettings_append, definedSettings_cons defined]
    apply payloadOf_carries _ _ _ positive
    · intro style
      by_contra outside
      exact innocent ⟨definition, defined,
        Or.inr (Or.inr (Or.inr ⟨style, Nat.not_lt.mp outside⟩))⟩
    · intro style other member same
      rcases mem_definedSettings_iff.mp member with ⟨requested, found⟩
      exact kept ⟨other.1, requested, other.2, found, by rw [style]; exact same⟩
    · intro style
      rw [definedSettings_eq_nil_iff]
      intro other requested
      by_contra present
      rcases Option.ne_none_iff_exists'.mp present with ⟨place, found⟩
      exact kept ⟨other, requested, place, found, by rw [style]; trivial⟩
  · intro collection members
    unfold payloadOf at members
    cases style : target.traits.capStyle with
    | indexed => rw [style] at members; cases members
    | posted => rw [style] at members; cases members
    | members =>
        rw [style] at members
        cases members
        exact members_forall₂ target settings

theorem first_of_two_slots_is_carried :
    let node : CapDefinition := { name := "node", index := 1 }
    let target : Target :=
      { slotCount := 2, caps := .ofList [("node", node), ("accelerator", { index := 0 })] }
    let settings : List CapSetting := [⟨"node", 500⟩, ⟨"fan", 9⟩, ⟨"accelerator", -7⟩]
    ∃ planned, plan target settings = .ok (some planned) ∧
      planned.payload.Suits .indexed ∧ planned.payload.Carries ⟨"node", 500⟩ node := by
  intro node target settings
  rcases exists_plan target settings (by decide +kernel) (by decide +kernel) with
    ⟨planned, accepted, _⟩
  have carried := plan_carries_settings accepted
  refine ⟨planned, accepted, carried.1,
    carried.2.1 [] _ _ node rfl (by decide +kernel) ?_ nofun⟩
  rintro ⟨other, requested, place, found, same⟩
  have elsewhere : ∀ other ∈ [(⟨"fan", 9⟩ : CapSetting), ⟨"accelerator", -7⟩],
      ∀ place ∈ target.caps.get? other.name, place.index ≠ 1 := by
    decide +kernel
  exact elsewhere other requested place found same

/-- Of two settings of one place in an array the first is lost, as is the first of two that
are posted, and a negative setting disables its control instead of being carried. -/
theorem accepted_settings_are_lost :
    let node : CapDefinition := { name := "node", path := "/c/node" }
    let caps : Table CapDefinition :=
      .ofList [("node", node), ("accelerator", { name := "accelerator", path := "/c/a" })]
    let target (style : CapStyle) : Target :=
      { slotCount := 1, caps, traits := { capStyle := style } }
    let both : List CapSetting := [⟨"node", 500⟩, ⟨"accelerator", 300⟩]
    caps.get? "node" = some node ∧
    (∃ planned, plan (target .indexed) both = .ok (some planned) ∧
      ¬planned.payload.Carries ⟨"node", 500⟩ node) ∧
    (∃ planned, plan (target .posted) both = .ok (some planned) ∧
      ¬planned.payload.Carries ⟨"node", 500⟩ node) ∧
    ∃ planned, plan (target .members) [⟨"node", -5⟩] = .ok (some planned) ∧
      ¬planned.payload.Carries ⟨"node", -5⟩ node ∧
      planned.payload = .members ⟨[⟨"/c/node", none, .disabled⟩]⟩ := by
  intro node caps target both
  refine ⟨by decide +kernel, ?_, ?_, ?_⟩
  · rcases exists_plan (target .indexed) both (by decide +kernel) (by decide +kernel) with
      ⟨planned, accepted, payload⟩
    refine ⟨planned, accepted, ?_⟩
    rw [payload]
    decide +kernel
  · rcases exists_plan (target .posted) both (by decide +kernel) (by decide +kernel) with
      ⟨planned, accepted, payload⟩
    refine ⟨planned, accepted, ?_⟩
    rw [payload]
    decide +kernel
  · rcases exists_plan (target .members) [⟨"node", -5⟩] (by decide +kernel) (by decide +kernel)
      with ⟨planned, accepted, payload⟩
    refine ⟨planned, accepted, ?_⟩
    rw [payload]
    decide +kernel

end ClusterPower.Cap
