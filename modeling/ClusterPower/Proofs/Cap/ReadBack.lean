import ClusterPower.Cap.Reading
import ClusterPower.Proofs.Cap.Commands
import ClusterPower.Proofs.Json.Written
import ClusterPower.Proofs.Redfish.RoundTrip
import Mathlib.Data.List.Induction

/-!
Power cap commands, read as the resource that they change. An array is read with each place at the
last setting of it and all others at nothing, and the limit that is posted as that of the node.
What is written of either is plain, so that the text of the command reads back.
-/

namespace ClusterPower.Cap

open Redfish

variable {target sent : Target} {settings : List CapSetting} {request : Command}

/-! ## Plain resources -/

theorem isPlain_ofOptional {held : Option Int} (fits : FitsWord held) (level : Nat) :
    Json.isPlain level (.ofOptional .integer held) = true := by
  cases held with
  | none => rfl
  | some value =>
      have inside := of_decide_eq_true (fits value rfl)
      have half : Word.signedBound 64 < Word.bound 64 := by decide
      exact decide_eq_true (by omega)

theorem isPlain_control {control : PowerControl} (fits : control.Fits)
    (unnamed : control.name = none) {level : Nat} (shallow : level + 1 < Json.ReaderState.deepest) :
    Json.isPlain level control.toJson = true := by
  have upper : level < Json.ReaderState.deepest := by omega
  rcases control with ⟨name, limit⟩
  cases unnamed
  cases limit with
  | none =>
      simp [PowerControl.toJson, Json.optionalMember, Json.isPlain, Json.membersArePlain, upper]
  | some limit =>
      have names : Json.isPlainText "PowerLimit" = true ∧
          Json.isPlainText "LimitInWatts" = true := by decide
      have held := isPlain_ofOptional (fits limit rfl) (level + 2)
      simp [PowerControl.toJson, PowerLimit.toJson, Json.optionalMember, Json.isPlain,
        Json.membersArePlain, upper, shallow, names, held]

theorem isPlain_zoneLimit {limit : ZoneLimit} (fits : limit.Fits) {level : Nat}
    (shallow : level < Json.ReaderState.deepest) : Json.isPlain level limit.toJson = true := by
  have names : Json.isPlainText "PowerLimitInWatts" = true ∧
      Json.isPlainText "ZoneNumber" = true := by decide
  simp [ZoneLimit.toJson, Json.isPlain, Json.membersArePlain, shallow, names,
    isPlain_ofOptional fits.watts, isPlain_ofOptional fits.zone]

theorem isPlain_ofItems {name : String} (plain : Json.isPlainText name = true) {items : List Json}
    (all : ∀ item ∈ items, Json.isPlain 2 item = true) :
    Json.isPlain 0 (.object [(name, .array items)]) = true := by
  simpa [Json.isPlain, Json.membersArePlain, plain, Json.ReaderState.deepest] using
    Json.arePlain_iff.mpr all

theorem decode_written {power : Power} (fits : power.Fits)
    (plain : Json.isPlain 0 power.toJson = true) (target : Target) :
    decode target power.toJson.compact = settingsOf target power := by
  rw [decode, Json.read?_compact plain, Option.bind_some, Power.undoes.written power fits]

/-! ## Slots -/

def lastSetting? (index : Nat) (defined : List Defined) : Option CapSetting :=
  ((defined.filter fun each => each.2.index == index).getLast?).map (·.1)

def slotAt (defined : List Defined) (index : Nat) : PowerControl :=
  { limit := (lastSetting? index defined).map fun setting => { watts := some setting.watts } }

theorem lastSetting?_append_self (before : List Defined) (last : Defined) :
    lastSetting? last.2.index (before ++ [last]) = some last.1 := by
  simp [lastSetting?, List.filter_append]

theorem lastSetting?_append_of_ne {index : Nat} {last : Defined} (other : last.2.index ≠ index)
    (before : List Defined) :
    lastSetting? index (before ++ [last]) = lastSetting? index before := by
  simp [lastSetting?, List.filter_append, other]

theorem mem_of_lastSetting? {index : Nat} {defined : List Defined} {setting : CapSetting}
    (last : lastSetting? index defined = some setting) :
    ∃ each ∈ defined, each.1 = setting := by
  rcases Option.map_eq_some_iff.mp last with ⟨each, found, same⟩
  exact ⟨each, (List.mem_filter.mp (List.mem_of_getLast? found)).1, same⟩

theorem slots_eq_map (count : Nat) (defined : List Defined) :
    slots count defined = (List.range count).map (slotAt defined) := by
  rw [slots_eq_foldl]
  induction defined using List.reverseRecOn with
  | nil =>
      have nothing : slotAt [] = fun _ => {} := rfl
      rw [List.foldl_nil, nothing, List.map_const', List.length_range]
  | append_singleton before last induction =>
      rw [List.foldl_append, induction, List.foldl_cons, List.foldl_nil, place]
      refine List.ext_getElem (by simp) fun index inside _ => ?_
      rw [List.getElem_set, List.getElem_map, List.getElem_map]
      split
      · next same => rw [List.getElem_range, slotAt, ← same, lastSetting?_append_self]; rfl
      · next other =>
          rw [List.getElem_range, slotAt, slotAt, lastSetting?_append_of_ne other]

/-! ## Documents of payloads -/

theorem fits_slots {count : Nat} {defined : List Defined}
    (words : ∀ each ∈ defined, Word.holdsSigned 64 each.1.watts = true) :
    ∀ control ∈ slots count defined, control.Fits ∧ control.name = none := by
  rw [slots_eq_map]
  intro control member
  rcases List.mem_map.mp member with ⟨index, _, rfl⟩
  refine ⟨fun limit held => ?_, rfl⟩
  rcases Option.map_eq_some_iff.mp held with ⟨setting, last, rfl⟩
  rcases mem_of_lastSetting? last with ⟨each, listed, rfl⟩
  rintro _ ⟨⟩
  exact words each listed

theorem toJson_indexed {controls : List PowerControl} (present : 0 < controls.length) :
    (Payload.indexed controls).toJson = ({ controls } : Power).toJson := by
  cases controls with
  | nil => cases present
  | cons first rest => rfl

theorem fits_zoneLimit {setting : CapSetting}
    (word : Word.holdsSigned 64 setting.watts = true) : (zoneLimit setting).Fits where
  watts := by
    rintro _ ⟨⟩
    exact word
  zone := by
    rintro _ ⟨⟩
    decide

theorem toJson_posted (limit : ZoneLimit) :
    (Payload.posted ⟨[limit]⟩).toJson = ({ limits := [limit] } : Power).toJson := rfl

theorem decode_indexed {controls : List PowerControl} (single : target.controlCount = 0)
    (present : 0 < controls.length)
    (fits : ∀ control ∈ controls, control.Fits ∧ control.name = none) :
    decode target (Payload.indexed controls).toJson.compact =
      .ok (controls.map (slotSetting target.traits.hpeServer)) := by
  rw [toJson_indexed present, decode_written]
  · cases controls with
    | nil => cases present
    | cons first rest => simp [settingsOf, single, Power.zoneEntryCount]
  · exact ⟨fun control member => (fits control member).1, nofun, nofun, nofun, nofun⟩
  · rw [← toJson_indexed present]
    apply isPlain_ofItems (by decide)
    intro item member
    rcases List.mem_map.mp member with ⟨control, listed, rfl⟩
    exact isPlain_control (fits control listed).1 (fits control listed).2 (by decide)

theorem decode_posted {limit : ZoneLimit} (single : target.controlCount = 0) (fits : limit.Fits) :
    decode target (Payload.posted ⟨[limit]⟩).toJson.compact = .ok [zoneSetting limit] := by
  rw [toJson_posted, decode_written]
  · simp [settingsOf, single, Power.zoneEntryCount]
  · exact ⟨nofun, nofun, nofun, by simpa using fits, nofun⟩
  · rw [← toJson_posted]
    apply isPlain_ofItems (by decide)
    intro item member
    rw [List.mem_singleton.mp member]
    exact isPlain_zoneLimit fits (by decide)

/-! ## Commands -/

/-- The setting of a place in an array after a request: nothing, unless a cap of it is set. -/
def settingAt (target : Target) (settings : List CapSetting) (index : Nat) : CapSetting where
  name := if target.traits.hpeServer then nodePowerLimit else ""
  watts := ((lastSetting? index (definedSettings target settings)).map (·.watts)).getD 0

theorem slotSetting_slotAt (index : Nat) :
    slotSetting target.traits.hpeServer (slotAt (definedSettings target settings) index) =
      settingAt target settings index := by
  unfold slotSetting settingAt slotAt
  cases lastSetting? index (definedSettings target settings) <;> rfl

theorem exists_plan_of_command (commanded : command target settings = .ok (some (sent, request))) :
    ∃ planned, plan target settings = .ok (some planned) ∧
      request = .writeCaps (Text.utf8 planned.payload.toJson.compact) := by
  rw [command_eq] at commanded
  cases accepted : plan target settings with
  | error error =>
      rw [accepted] at commanded
      cases commanded
  | ok found =>
      rw [accepted] at commanded
      rcases Option.map_eq_some_iff.mp (Except.ok.inj commanded) with ⟨planned, rfl, written⟩
      cases written
      exact ⟨planned, rfl, rfl⟩

/-- A command for a target without separate controls reads back: an array as one setting for each
of its places, with the last value asked for there or nothing, and a posted limit as the last value
asked for, of the node. -/
theorem command_reads_back (single : target.controlCount = 0)
    (words : ∀ setting ∈ settings, Word.holdsSigned 64 setting.watts = true)
    (commanded : command target settings = .ok (some (sent, request))) :
    (target.traits.capStyle = .indexed →
      ∃ text, request = .writeCaps (Text.utf8 text) ∧
        decode target text =
          .ok ((List.range target.slotCount).map (settingAt target settings))) ∧
    (target.traits.capStyle = .posted →
      ∃ text last, request = .writeCaps (Text.utf8 text) ∧
        (definedSettings target settings).getLast? = some last ∧
        decode target text = .ok [⟨nodePowerLimit, last.1.watts⟩]) := by
  rcases exists_plan_of_command commanded with ⟨planned, accepted, rfl⟩
  have payload := payload_of_plan accepted
  have present := size_pos_of_plan accepted
  have fits : ∀ each ∈ definedSettings target settings,
      Word.holdsSigned 64 each.1.watts = true :=
    fun each member => words each.1 (mem_definedSettings_iff.mp member).1
  unfold payloadOf at payload
  refine ⟨fun style => ⟨_, rfl, ?_⟩, fun style => ?_⟩
  · rw [style] at payload
    rw [payload] at present ⊢
    rw [decode_indexed single present (fits_slots fits), slots_eq_map, List.map_map]
    exact congrArg Except.ok (List.map_congr_left fun index _ => slotSetting_slotAt index)
  · rw [style] at payload
    rw [payload] at present
    cases found : (definedSettings target settings).getLast? with
    | none =>
        rw [found] at present
        cases present
    | some last =>
        rw [found] at payload
        refine ⟨_, last, rfl, rfl, ?_⟩
        rw [payload]
        exact decode_posted single (fits_zoneLimit (fits last (List.mem_of_getLast? found)))

theorem later_setting_reads_back :
    let caps : Table CapDefinition := .ofList [
      ("node", { name := "node", index := 1 }), ("peak", { name := "peak", index := 1 })]
    let target (style : CapStyle) : Target :=
      { slotCount := 2, caps, traits := { capStyle := style } }
    let settings : List CapSetting := [⟨"node", 500⟩, ⟨"fan", 9⟩, ⟨"peak", -7⟩]
    (∃ sent text,
      command (target .indexed) settings = .ok (some (sent, .writeCaps (Text.utf8 text))) ∧
      decode (target .indexed) text = .ok [⟨"", 0⟩, ⟨"", -7⟩]) ∧
    ∃ sent text,
      command (target .posted) settings = .ok (some (sent, .writeCaps (Text.utf8 text))) ∧
      decode (target .posted) text = .ok [⟨nodePowerLimit, -7⟩] := by
  intro caps target settings
  have words : ∀ setting ∈ settings, Word.holdsSigned 64 setting.watts = true := by
    decide +kernel
  constructor
  · rcases exists_plan (target .indexed) settings (by decide +kernel) (by decide +kernel) with
      ⟨planned, accepted, _⟩
    have commanded := command_of_plan accepted
    rcases (command_reads_back rfl words commanded).1 rfl with ⟨text, same, read⟩
    rw [same] at commanded
    exact ⟨planned.target, text, commanded, read.trans (by decide +kernel)⟩
  · rcases exists_plan (target .posted) settings (by decide +kernel) (by decide +kernel) with
      ⟨planned, accepted, _⟩
    have commanded := command_of_plan accepted
    rcases (command_reads_back rfl words commanded).2 rfl with ⟨text, last, same, found, read⟩
    rw [same] at commanded
    have final : (definedSettings (target .posted) settings).getLast? =
        some (⟨"peak", -7⟩, { name := "peak", index := 1 }) := by decide +kernel
    cases found.symm.trans final
    exact ⟨planned.target, text, commanded, read⟩

end ClusterPower.Cap
