import ClusterPower.Cap.Reading
import Mathlib.Data.List.Forall2

/-!
Replies to power cap reads of targets without separate controls. The entries of one list are read,
each as one setting. Which list that is depends on whether there are zone entries of any kind, but
only the limits among them are read: a reply whose zone entries are all of other kinds hides its
power controls, and nothing is left to read.
-/

namespace ClusterPower.Cap

open Redfish

variable {target : Target} {text : String} {power : Power}

/-! ## Settings of entries -/

/-- A limit is read as it stands, and one that is missing or null as zero. -/
def ReadsAs (limit : Option Int) (watts : Int) : Prop :=
  limit = some watts ∨ limit = none ∧ watts = 0

theorem readsAs_getD (limit : Option Int) : ReadsAs limit (limit.getD 0) := by
  cases limit with
  | none => exact Or.inr ⟨rfl, rfl⟩
  | some watts => exact Or.inl rfl

/-- A zone limit is read as a setting of the node. -/
def IsZoneSetting (limit : ZoneLimit) (setting : CapSetting) : Prop :=
  setting.name = nodePowerLimit ∧ ReadsAs limit.watts setting.watts

/-- A power control is read as a setting of its own name, and on some servers of the node. -/
def IsSlotSetting (hpeServer : Bool) (control : PowerControl) (setting : CapSetting) : Prop :=
  setting.name = (if hpeServer then nodePowerLimit else control.name.getD "") ∧
    ReadsAs (control.limit.bind (·.watts)) setting.watts

theorem forall₂_zoneSetting (limits : List ZoneLimit) :
    List.Forall₂ IsZoneSetting limits (limits.map zoneSetting) :=
  List.forall₂_map_right_iff.mpr (List.forall₂_same.mpr fun _ _ => ⟨rfl, readsAs_getD _⟩)

theorem forall₂_slotSetting (hpeServer : Bool) (controls : List PowerControl) :
    List.Forall₂ (IsSlotSetting hpeServer) controls (controls.map (slotSetting hpeServer)) :=
  List.forall₂_map_right_iff.mpr (List.forall₂_same.mpr fun _ _ => ⟨rfl, readsAs_getD _⟩)

/-! ## Replies -/

/-- The text is a power resource that reports no error. -/
structure IsReply (text : String) (power : Power) : Prop where
  resource : (Json.read? (Text.utf8 text)).bind Power.ofJson? = some power
  licensed : power.error.isNone

/-- Zone entries of which none is a limit keep the power controls from being read. -/
def HidesControls (power : Power) : Prop :=
  power.controls ≠ [] ∧ power.limits = [] ∧ (power.actualLimits ≠ [] ∨ power.limitRanges ≠ [])

theorem zoneEntryCount_pos_iff :
    0 < power.zoneEntryCount ↔
      power.actualLimits ≠ [] ∨ power.limitRanges ≠ [] ∨ power.limits ≠ [] := by
  simp only [Power.zoneEntryCount, ← List.length_pos_iff]
  omega

def entrySettings (target : Target) (power : Power) : List CapSetting :=
  if 0 < power.zoneEntryCount then power.limits.map zoneSetting
  else power.controls.map (slotSetting target.traits.hpeServer)

theorem entrySettings_of_limits (target : Target) (present : power.limits ≠ []) :
    entrySettings target power = power.limits.map zoneSetting :=
  if_pos (zoneEntryCount_pos_iff.mpr (Or.inr (Or.inr present)))

theorem entrySettings_of_controls (target : Target) (none : power.limits = [])
    (present : power.controls ≠ []) (seen : ¬HidesControls power) :
    entrySettings target power = power.controls.map (slotSetting target.traits.hpeServer) := by
  apply if_neg
  rw [zoneEntryCount_pos_iff]
  rintro (actual | ranges | limits)
  · exact seen ⟨present, none, Or.inl actual⟩
  · exact seen ⟨present, none, Or.inr ranges⟩
  · exact limits none

theorem entrySettings_of_hidden (target : Target) (hidden : HidesControls power) :
    entrySettings target power = [] := by
  rcases hidden with ⟨_, none, actual | ranges⟩
  · rw [entrySettings, if_pos (zoneEntryCount_pos_iff.mpr (Or.inl actual)), none, List.map_nil]
  · rw [entrySettings, if_pos (zoneEntryCount_pos_iff.mpr (Or.inr (Or.inl ranges))), none,
      List.map_nil]

theorem entrySettings_eq_nil_iff (target : Target) :
    entrySettings target power = [] ↔
      power.controls = [] ∧ power.limits = [] ∨ HidesControls power := by
  by_cases limits : power.limits = []
  · by_cases controls : power.controls = []
    · simp [entrySettings, limits, controls]
    · by_cases hidden : HidesControls power
      · simp [entrySettings_of_hidden target hidden, hidden]
      · simp [entrySettings_of_controls target limits controls hidden, controls, hidden]
  · simp [entrySettings_of_limits target limits, HidesControls, limits]

theorem IsReply.decode_eq (reply : IsReply text power) (single : target.controlCount = 0) :
    decode target text =
      if (entrySettings target power).isEmpty then .error .noPowerData
      else .ok (entrySettings target power) := by
  have licensed : power.error.isSome = false := by simpa using reply.licensed
  simp [decode, reply.resource, settingsOf, licensed, single, entrySettings]

theorem IsReply.decode_eq_ok (reply : IsReply text power) (single : target.controlCount = 0)
    (present : entrySettings target power ≠ []) :
    decode target text = .ok (entrySettings target power) := by
  rw [reply.decode_eq single, if_neg (by simpa using present)]

theorem IsReply.decode_eq_noPowerData_iff (reply : IsReply text power)
    (single : target.controlCount = 0) :
    decode target text = .error .noPowerData ↔
      power.controls = [] ∧ power.limits = [] ∨ HidesControls power := by
  rw [← entrySettings_eq_nil_iff target]
  constructor
  · intro failed
    by_contra present
    rw [reply.decode_eq_ok single present] at failed
    cases failed
  · intro nothing
    rw [reply.decode_eq single, nothing]
    rfl

/-- There is nothing in a reply if it has neither power controls nor limits, or if it hides its
controls, and in no other case. If it has limits, each is read as one setting, in order; if it has
none, and does not hide its controls, so is each of them. -/
theorem reply_is_empty_or_hidden_or_read (reply : IsReply text power)
    (single : target.controlCount = 0) :
    (decode target text = .error .noPowerData ↔
      power.controls = [] ∧ power.limits = [] ∨ HidesControls power) ∧
    (power.limits ≠ [] →
      ∃ settings, decode target text = .ok settings ∧
        List.Forall₂ IsZoneSetting power.limits settings) ∧
    (power.limits = [] → power.controls ≠ [] → ¬HidesControls power →
      ∃ settings, decode target text = .ok settings ∧
        List.Forall₂ (IsSlotSetting target.traits.hpeServer) power.controls settings) := by
  refine ⟨reply.decode_eq_noPowerData_iff single, fun present => ?_, fun none present seen => ?_⟩
  · have settings := entrySettings_of_limits target present
    refine ⟨_, reply.decode_eq_ok single (by simpa [settings] using present), ?_⟩
    rw [settings]
    exact forall₂_zoneSetting power.limits
  · have settings := entrySettings_of_controls target none present seen
    refine ⟨_, reply.decode_eq_ok single (by simpa [settings] using present), ?_⟩
    rw [settings]
    exact forall₂_slotSetting _ power.controls

theorem null_limit_is_read :
    let text := "\x7b\"PowerControl\":[\x7b\x7d]," ++
      "\"PowerLimits\":[\x7b\"PowerLimitInWatts\":null,\"ZoneNumber\":0\x7d," ++
      "\x7b\"PowerLimitInWatts\":7,\"ZoneNumber\":1\x7d]\x7d"
    ∃ power settings, IsReply text power ∧ power.limits.length = 2 ∧
      decode {} text = .ok settings ∧ List.Forall₂ IsZoneSetting power.limits settings := by
  intro text
  have found : ((Json.read? (Text.utf8 text)).bind Power.ofJson?).map
      (fun power => (power.error.isNone, power.limits.length)) = some (true, 2) := by
    decide +kernel
  rcases Option.map_eq_some_iff.mp found with ⟨power, resource, parts⟩
  rcases Prod.mk.inj parts with ⟨licensed, length⟩
  have reply : IsReply text power := ⟨resource, licensed⟩
  have present : power.limits ≠ [] := List.ne_nil_of_length_pos (by omega)
  have single : ({} : Target).controlCount = 0 := rfl
  rcases (reply_is_empty_or_hidden_or_read reply single).2.1 present with
    ⟨settings, decoded, reads⟩
  exact ⟨power, settings, reply, length, decoded, reads⟩

theorem hidden_limit_is_no_data :
    let control : PowerControl := { name := some "node", limit := some { watts := some 500 } }
    let text := "\x7b\"PowerControl\":[\x7b\"Name\":\"node\"," ++
      "\"PowerLimit\":\x7b\"LimitInWatts\":500\x7d\x7d]," ++
      "\"ActualPowerLimits\":[\x7b\"PowerLimitInWatts\":480,\"ZoneNumber\":0\x7d]\x7d"
    ∃ power, IsReply text power ∧ power.controls = [control] ∧
      decode {} text = .error .noPowerData := by
  intro control text
  have found : ((Json.read? (Text.utf8 text)).bind Power.ofJson?).map
      (fun power =>
        (power.error.isNone, power.controls, power.limits, power.actualLimits.length)) =
      some (true, [control], [], 1) := by
    decide +kernel
  rcases Option.map_eq_some_iff.mp found with ⟨power, resource, parts⟩
  simp only [Prod.mk.injEq] at parts
  rcases parts with ⟨licensed, controls, limits, actual⟩
  have reply : IsReply text power := ⟨resource, licensed⟩
  have hidden : HidesControls power :=
    ⟨by simp [controls], limits, Or.inl (List.ne_nil_of_length_pos (by omega))⟩
  exact ⟨power, reply, controls, (reply.decode_eq_noPowerData_iff rfl).mpr (Or.inr hidden)⟩

end ClusterPower.Cap
