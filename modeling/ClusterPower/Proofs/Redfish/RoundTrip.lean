import ClusterPower.Proofs.Json.Records
import ClusterPower.Redfish.Power

/-!
The power resources that are read and written. Whatever a reply holds that is read of it can be
written and read again, and so can everything whose numbers are words and whose error is not null.
-/

namespace ClusterPower.Redfish

open Json

/-- A number that is absent or a signed word. -/
def FitsWord (held : Option Int) : Prop :=
  ∀ value ∈ held, Word.holdsSigned 64 value = true

theorem undoes_word : Undoes (asOptional? asInt64?) (ofOptional .integer) FitsWord :=
  undoes_asInt64?.optional fun _ => nofun

theorem undoes_optionalText : Undoes (asOptional? asText?) (ofOptional .text) fun _ => True :=
  (undoes_asText?.optional fun _ => nofun).congr fun held => by simp

/-! ## Limits of power controls -/

def PowerLimit.Fits (limit : PowerLimit) : Prop :=
  FitsWord limit.watts

theorem PowerLimit.undoes : Undoes ofJson? toJson Fits where
  written limit fits := by
    have record : asRecord? ["LimitInWatts"] limit.toJson = some ⟨false, _⟩ :=
      asRecord?_object (within_self _) (by decide)
    dsimp only [ofJson?, Option.bind_eq_bind]
    rw [record, Option.bind_some, undoes_word.nullable?_written limit.watts fits]
    all_goals rfl
  fits json limit found := by
    dsimp only [ofJson?, Option.bind_eq_bind] at found
    simp only [↓Option.bind_eq_some_iff] at found
    rcases found with ⟨record, _, watts, wattsFound, same⟩
    cases same
    exact undoes_word.fits_nullable? nofun wattsFound

theorem PowerLimit.undoes_optional :
    Undoes (asOptional? ofJson?) (ofOptional toJson) fun held => ∀ limit ∈ held, limit.Fits :=
  undoes.optional fun _ => nofun

def PowerControl.Fits (control : PowerControl) : Prop :=
  ∀ limit ∈ control.limit, limit.Fits

theorem PowerControl.undoes : Undoes ofJson? toJson Fits where
  written control fits := by
    have record : asRecord? ["Name", "PowerLimit"] control.toJson = some ⟨false, _⟩ :=
      asRecord?_object ((within_optionalMember _ _ _).append (within_optionalMember _ _ _))
        (by decide)
    dsimp only [ofJson?, Option.bind_eq_bind]
    rw [record, Option.bind_some, undoes_optionalText.optional?_written control.name trivial,
      PowerLimit.undoes_optional.optional?_written control.limit fits]
    · rfl
    all_goals simp [Record.get?, List.lookup_append]
  fits json control found := by
    dsimp only [ofJson?, Option.bind_eq_bind] at found
    simp only [↓Option.bind_eq_some_iff] at found
    rcases found with ⟨record, _, name, _, limit, limitFound, same⟩
    cases same
    exact PowerLimit.undoes_optional.fits_optional? nofun limitFound

/-! ## Limits of zones -/

structure ZoneLimit.Fits (limit : ZoneLimit) : Prop where
  watts : FitsWord limit.watts
  zone : FitsWord limit.zone

theorem ZoneLimit.undoes : Undoes ofJson? toJson Fits where
  written limit fits := by
    have record : asRecord? ["PowerLimitInWatts", "ZoneNumber"] limit.toJson = some ⟨false, _⟩ :=
      asRecord?_object (within_self _) (by decide)
    dsimp only [ofJson?, Option.bind_eq_bind]
    rw [record, Option.bind_some, undoes_word.nullable?_written limit.watts fits.watts,
      undoes_word.nullable?_written limit.zone fits.zone]
    all_goals rfl
  fits json limit found := by
    dsimp only [ofJson?, Option.bind_eq_bind] at found
    simp only [↓Option.bind_eq_some_iff] at found
    rcases found with ⟨record, _, watts, wattsFound, zone, zoneFound, same⟩
    cases same
    exact ⟨undoes_word.fits_nullable? nofun wattsFound, undoes_word.fits_nullable? nofun zoneFound⟩

def ZoneLimits.Fits (limits : ZoneLimits) : Prop :=
  ∀ limit ∈ limits.limits, limit.Fits

theorem ZoneLimits.undoes : Undoes ofJson? toJson Fits where
  written limits fits := by
    have record : asRecord? ["PowerLimits"] limits.toJson = some ⟨false, _⟩ :=
      asRecord?_object (within_self _) (by decide)
    dsimp only [ofJson?, Option.bind_eq_bind]
    rw [record, Option.bind_some, ZoneLimit.undoes.list.required?_written limits.limits fits]
    all_goals rfl
  fits json limits found := by
    dsimp only [ofJson?, Option.bind_eq_bind] at found
    simp only [↓Option.bind_eq_some_iff] at found
    rcases found with ⟨record, _, entries, entriesFound, same⟩
    cases same
    exact ZoneLimit.undoes.list.fits_required? entriesFound

/-! ## Separate controls -/

theorem undoes_controlMode :
    Undoes (asEnumeration? ControlMode.names) (fun mode => .text mode.name) fun _ => True :=
  undoes_asEnumeration? fun mode => by cases mode <;> rfl

def ControlMember.Fits (member : ControlMember) : Prop :=
  FitsWord member.setPoint

theorem ControlMember.undoes : Undoes ofJson? toJson Fits where
  written member fits := by
    have record : asRecord? ["@odata.id", "SetPoint", "ControlMode"] member.toJson =
        some ⟨false, _⟩ :=
      asRecord?_object (((within_self [_]).append (within_optionalMember _ _ _)).append
        (within_self [_])) (by decide)
    dsimp only [ofJson?, Option.bind_eq_bind]
    rw [record, Option.bind_some, undoes_asText?.required?_written member.id trivial,
      undoes_word.optional?_written member.setPoint fits,
      undoes_controlMode.required?_written member.mode trivial]
    · rfl
    all_goals simp [Record.get?, List.lookup_append, List.lookup_cons]
  fits json member found := by
    dsimp only [ofJson?, Option.bind_eq_bind] at found
    simp only [↓Option.bind_eq_some_iff] at found
    rcases found with ⟨record, _, id, _, setPoint, setPointFound, mode, _, same⟩
    cases same
    exact undoes_word.fits_optional? nofun setPointFound

def ControlMembers.Fits (members : ControlMembers) : Prop :=
  ∀ member ∈ members.members, member.Fits

theorem ControlMembers.undoes : Undoes ofJson? toJson Fits where
  written members fits := by
    have record : asRecord? ["Members"] members.toJson = some ⟨false, _⟩ :=
      asRecord?_object (within_self _) (by decide)
    dsimp only [ofJson?, Option.bind_eq_bind]
    rw [record, Option.bind_some, ControlMember.undoes.list.required?_written members.members fits]
    all_goals rfl
  fits json members found := by
    dsimp only [ofJson?, Option.bind_eq_bind] at found
    simp only [↓Option.bind_eq_some_iff] at found
    rcases found with ⟨record, _, entries, entriesFound, same⟩
    cases same
    exact ControlMember.undoes.list.fits_required? entriesFound

/-! ## The power resource -/

structure Power.Fits (power : Power) : Prop where
  controls : ∀ control ∈ power.controls, control.Fits
  error : ∀ form ∈ power.error, form.value ≠ .null
  actualLimits : ∀ limit ∈ power.actualLimits, limit.Fits
  limits : ∀ limit ∈ power.limits, limit.Fits
  setPoint : FitsWord power.setPoint

theorem Power.undoes : Undoes ofJson? toJson Fits where
  written power fits := by
    have record : asRecord? fieldNames power.toJson = some ⟨false, _⟩ :=
      asRecord?_object
        ((((((((within_optionalMember _ _ _).append (within_optionalMember _ _ _)).append
          (within_listMember _ _ _)).append (within_optionalMember _ _ _)).append
          (within_listMember _ _ _)).append (within_listMember _ _ _)).append
          (within_listMember _ _ _)).append (within_optionalMember _ _ _)) (by decide)
    dsimp only [ofJson?, Option.bind_eq_bind]
    rw [record, Option.bind_some, undoes_optionalText.optional?_written power.etag trivial,
      undoes_optionalText.optional?_written power.name trivial,
      PowerControl.undoes.list_written power.controls fits.controls,
      undoes_optionalFreeForm.optional?_written power.error fits.error,
      ZoneLimit.undoes.list_written power.actualLimits fits.actualLimits,
      undoes_freeForm?.list_written power.limitRanges (fun _ _ => trivial),
      ZoneLimit.undoes.list_written power.limits fits.limits,
      undoes_word.optional?_written power.setPoint fits.setPoint]
    · rfl
    all_goals simp [Record.get?, List.lookup_append]
  fits json power found := by
    dsimp only [ofJson?, Option.bind_eq_bind] at found
    simp only [↓Option.bind_eq_some_iff] at found
    -- Texts fit whatever was read, so that only the other fields matter.
    rcases found with ⟨record, _, etag, _, name, _, controls, controlsFound, error, errorFound,
      actualLimits, actualFound, limitRanges, _, limits, limitsFound, setPoint, setPointFound, same⟩
    cases same
    exact {
      controls := PowerControl.undoes.fits_list? controlsFound
      error := undoes_optionalFreeForm.fits_optional? nofun errorFound
      actualLimits := ZoneLimit.undoes.fits_list? actualFound
      limits := ZoneLimit.undoes.fits_list? limitsFound
      setPoint := undoes_word.fits_optional? nofun setPointFound }

end ClusterPower.Redfish
