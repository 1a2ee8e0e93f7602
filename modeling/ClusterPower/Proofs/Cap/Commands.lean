import ClusterPower.Proofs.Cap.Order

/-!
Power cap commands. What is planned can always be sent: its payload has an element, so that there
is a body, and a body has bytes. A command therefore fails with what its plan fails with, which
is never that something is missing.
-/

namespace ClusterPower.Cap

open Redfish

variable {target : Target} {settings : List CapSetting} {planned : Plan} {error : CapError}

/-! ## Bodies -/

def Payload.size : Payload → Nat
  | .indexed controls => controls.length
  | .posted limits => limits.limits.length
  | .members collection => collection.members.length

theorem body_eq_ok_iff {payload : Payload} {bytes : Bytes} :
    payload.body = .ok bytes ↔ 0 < payload.size ∧ bytes = Redfish.body payload.toJson := by
  cases payload with
  | indexed controls => cases controls <;> simp [Payload.body, Payload.size, eq_comm]
  | posted limits =>
      rcases limits with ⟨limits⟩
      cases limits <;> simp [Payload.body, Payload.size, eq_comm]
  | members collection =>
      rcases collection with ⟨members⟩
      cases members <;> simp [Payload.body, Payload.size, eq_comm]

theorem body_object_ne_nil (members : List (String × Json)) :
    Redfish.body (.object members) ≠ [] := by
  simp [Redfish.body, Text.utf8, Json.compact, String.utf8EncodeChar]

theorem body_payload_ne_nil (payload : Payload) : Redfish.body payload.toJson ≠ [] := by
  cases payload with
  | indexed controls => exact body_object_ne_nil _
  | posted limits => exact body_object_ne_nil _
  | members collection => exact body_object_ne_nil _

/-! ## Plans -/

theorem target_of_plan (accepted : plan target settings = .ok (some planned)) :
    planned.target = target.withPowerPath planned.target.powerPath := by
  have shape := (plan_eq_ok_iff.mp accepted).2
  cases split : definedSettings target settings with
  | nil =>
      rw [split] at shape
      cases shape
  | cons first rest =>
      rw [split] at shape
      cases style : target.traits.capStyle with
      | indexed | posted | members =>
          simp only [planDefined?, style, Option.some.injEq] at shape
          rw [← shape]
          rfl

/-- What is planned is not empty. An accepted setting of an array has its place there, so that an
array without places is never planned. -/
theorem size_pos_of_plan (accepted : plan target settings = .ok (some planned)) :
    0 < planned.payload.size := by
  rcases plan_eq_ok_iff_within.mp accepted with ⟨within, _, shape⟩
  have present : definedSettings target settings ≠ [] := by
    intro nothing
    rw [planDefined?_eq_none_iff.mpr nothing] at shape
    cases shape
  rcases List.exists_mem_of_ne_nil _ present with ⟨defined, member⟩
  rw [payload_of_plan accepted]
  unfold payloadOf
  cases style : target.traits.capStyle with
  | indexed =>
      have inside : ¬target.slotCount ≤ defined.2.index :=
        fun outside => (within defined member).2.2 ⟨style, outside⟩
      simp only [Payload.size, slots_eq_foldl, length_foldl_place, List.length_replicate]
      omega
  | posted => simp [Payload.size, List.getLast?_eq_getLast_of_ne_nil present]
  | members =>
      simp only [Payload.size, List.length_map]
      exact List.length_pos_of_mem member

theorem exists_breaks_of_plan (failed : plan target settings = .error error) :
    ∃ earlier setting definition, Breaks target earlier setting definition error := by
  rcases remainingFault?_eq_some_iff.mp (plan_eq_error_iff.mp failed) with
    ⟨before, setting, _, definition, _, _, _, breaks⟩
  exact ⟨_, setting, definition, breaks⟩

/-! ## Commands -/

theorem command_of_plan (accepted : plan target settings = .ok (some planned)) :
    command target settings =
      .ok (some (planned.target, .writeCaps (Redfish.body planned.payload.toJson))) := by
  have body := body_eq_ok_iff.mpr ⟨size_pos_of_plan accepted, rfl⟩
  have bytes : (Redfish.body planned.payload.toJson).isEmpty = false := by
    simpa using body_payload_ne_nil planned.payload
  simp [command, accepted, body, Command.writeCaps?, bytes]

theorem command_eq (target : Target) (settings : List CapSetting) :
    command target settings = (plan target settings).map (Option.map fun planned =>
      (planned.target, .writeCaps (Redfish.body planned.payload.toJson))) := by
  cases accepted : plan target settings with
  | error error => rw [command, accepted]; rfl
  | ok planned =>
      cases planned with
      | none => rw [command, accepted]; rfl
      | some planned => exact command_of_plan accepted

/-- A command fails exactly if its plan does, and with the same error, which is never that there
is nothing to send; there is none exactly if nothing is planned. Otherwise it sends what is
planned, which are some bytes, to the target of the request, or to another resource of it. And a
payload has a body exactly if it has an element. -/
theorem command_fails_only_with_plan (target : Target) (settings : List CapSetting) :
    (∀ error, command target settings = .error error ↔ plan target settings = .error error) ∧
    (∀ error, command target settings = .error error →
      error ≠ .missingLimit ∧ error ≠ .missingControl ∧ ∀ reason, error ≠ .undecodable reason) ∧
    (command target settings = .ok none ↔ plan target settings = .ok none) ∧
    (∀ planned, plan target settings = .ok (some planned) →
      planned.target = target.withPowerPath planned.target.powerPath ∧
      ∃ bytes, bytes ≠ [] ∧ planned.payload.body = .ok bytes ∧
        command target settings = .ok (some (planned.target, .writeCaps bytes))) ∧
    ∀ payload : Payload, (∃ bytes, payload.body = .ok bytes) ↔ 0 < payload.size := by
  have same : ∀ error,
      command target settings = .error error ↔ plan target settings = .error error := by
    intro error
    rw [command_eq]
    cases plan target settings <;> simp [Except.map]
  refine ⟨same, fun error failed => ?_, ?_, fun planned accepted => ?_, fun payload => ?_⟩
  · rcases exists_breaks_of_plan ((same error).mp failed) with ⟨_, _, _, breaks⟩
    cases breaks <;> simp
  · rw [command_eq]
    cases plan target settings <;> simp [Except.map]
  · exact ⟨target_of_plan accepted, _, body_payload_ne_nil _,
      body_eq_ok_iff.mpr ⟨size_pos_of_plan accepted, rfl⟩, command_of_plan accepted⟩
  · simp only [body_eq_ok_iff, exists_and_left, exists_eq, and_true]

end ClusterPower.Cap
