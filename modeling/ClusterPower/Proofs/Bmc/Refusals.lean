import ClusterPower.Proofs.Bmc.MediaType
import ClusterPower.Proofs.Json.Members

/-!
What is reported of a refused request. The two forms of error bodies exclude each other, so it does
not matter which of them is tried first. The message opens with the BMC and the status, and ends
with what the body says: all its further information in the one form, its text in the other, and
the whole body where it has neither form or is said to be no JSON text.
-/

namespace ClusterPower.Bmc

open Redfish

variable {value : Json} {target : Target} {status : Nat} {contentType other : String} {body : Bytes}

/-! ## Forms of error bodies -/

theorem exists_message_of_errorBody {error : ErrorBody}
    (found : ErrorBody.ofJson? value = some error) :
    ∃ field record, errorField? value = some field ∧
      Json.asRecord? ["code", "message", "@Message.ExtendedInfo"] field = some record ∧
      record.get? "message" = some (.text error.message) := by
  obtain ⟨field, isField, found⟩ := Option.bind_eq_some_iff.mp found
  obtain ⟨record, isRecord, found⟩ := Option.bind_eq_some_iff.mp found
  obtain ⟨code, -, found⟩ := Option.bind_eq_some_iff.mp found
  obtain ⟨message, isMessage, found⟩ := Option.bind_eq_some_iff.mp found
  obtain ⟨info, -, same⟩ := Option.bind_eq_some_iff.mp found
  cases same
  obtain ⟨json, got, isText⟩ := Option.bind_eq_some_iff.mp isMessage
  refine ⟨field, record, isField, isRecord, ?_⟩
  cases json with
  | text => rw [got, ← Option.some.inj isText]
  | _ => cases isText

theorem exists_message_of_localizedErrorBody {error : LocalizedErrorBody}
    (found : LocalizedErrorBody.ofJson? value = some error) :
    ∃ field record message inner, errorField? value = some field ∧
      Json.asRecord? ["code", "message"] field = some record ∧
      record.get? "message" = some message ∧
      Json.asRecord? ["lang", "value"] message = some inner := by
  obtain ⟨field, isField, found⟩ := Option.bind_eq_some_iff.mp found
  obtain ⟨record, isRecord, found⟩ := Option.bind_eq_some_iff.mp found
  obtain ⟨code, -, found⟩ := Option.bind_eq_some_iff.mp found
  obtain ⟨message, isMessage, found⟩ := Option.bind_eq_some_iff.mp found
  obtain ⟨inner, isInner, -⟩ := Option.bind_eq_some_iff.mp found
  exact ⟨field, record, message, inner, isField, isRecord, isMessage, isInner⟩

theorem forms_exclude_each_other (value : Json) :
    ErrorBody.ofJson? value = none ∨ LocalizedErrorBody.ofJson? value = none := by
  cases plain : ErrorBody.ofJson? value with
  | none => exact Or.inl rfl
  | some error =>
      cases localized : LocalizedErrorBody.ofJson? value with
      | none => exact Or.inr rfl
      | some also =>
          obtain ⟨field, record, isField, isRecord, isText⟩ := exists_message_of_errorBody plain
          obtain ⟨again, alsoRecord, message, inner, alsoField, isAlso, isMessage, isInner⟩ :=
            exists_message_of_localizedErrorBody localized
          rw [isField] at alsoField
          cases alsoField
          have shared : "message" ∈ ["code", "message", "@Message.ExtendedInfo"] := by decide
          have alsoShared : "message" ∈ ["code", "message"] := by decide
          have same := Json.get?_eq_of_asRecord? shared alsoShared (by decide) isRecord isAlso
          rw [isText, isMessage] at same
          cases same
          cases isInner

def plainForm? (body : Bytes) : Option ErrorBody :=
  (Json.read? body).bind ErrorBody.ofJson?

def localizedForm? (body : Bytes) : Option LocalizedErrorBody :=
  (Json.read? body).bind LocalizedErrorBody.ofJson?

theorem plainForm?_or_localizedForm? (body : Bytes) :
    plainForm? body = none ∨ localizedForm? body = none := by
  unfold plainForm? localizedForm?
  cases Json.read? body with
  | none => exact Or.inl rfl
  | some value => exact forms_exclude_each_other value

theorem knownError?_eq (body : Bytes) :
    knownError? body =
      ((plainForm? body).map errorText).or ((localizedForm? body).map localizedErrorText) := by
  unfold knownError? plainForm? localizedForm?
  cases Json.read? body <;> rfl

/-! ## Messages -/

/-- The message begins with the one text and ends with the other. -/
def Frames (opening ending message : String) : Prop :=
  ∃ between, message = opening ++ between ++ ending

def entryText (info : ExtendedInfo) : String :=
  " Message: " ++ info.message.getD "" ++ " Resolution: " ++ info.resolution.getD ""

theorem frames_errorText (error : ErrorBody) :
    Frames ("Redfish Error Message: " ++ error.message)
      (String.join (error.info.map entryText)) (errorText error) :=
  ⟨if error.info.isEmpty then "" else " ExtendedInfo:", rfl⟩

theorem Frames.prepend {opening ending message : String} (frames : Frames opening ending message)
    (before : String) : Frames (before ++ opening) ending (before ++ message) := by
  obtain ⟨between, rfl⟩ := frames
  exact ⟨between, by simp only [String.append_assoc]⟩

theorem refusalText_of_json {text : String} (json : PresentsJson contentType)
    (known : knownError? body = some text) : refusalText contentType body = text := by
  rw [refusalText, if_pos (mediaType_eq_json_iff.mpr json), known]
  rfl

theorem frames_refusalText_of_unknown
    (unknown : ¬PresentsJson contentType ∨ knownError? body = none) :
    Frames "" (Text.lossy body) (refusalText contentType body) := by
  have nothing : (if mediaType contentType = jsonMediaType then knownError? body else none) =
      none := by
    obtain other | formless := unknown
    · exact if_neg (mt mediaType_eq_json_iff.mp other)
    · rw [formless, ite_self]
  rw [refusalText, nothing]
  exact ⟨"unrecognized Redfish response (" ++ mediaType contentType ++ ") format: ",
    by rw [String.empty_append, Option.getD_none]⟩

theorem refusalMessage_eq_of_same (same : SameMedia contentType other) :
    refusalMessage target status other body = refusalMessage target status contentType body := by
  rw [refusalMessage, refusalText, ← mediaType_eq_of_same same]
  rfl

/-- A body has at most one of the two forms, so that either may be tried first. The message begins
with the BMC and the status and is the same for all content types that differ in blanks, case or
parameters only. For a JSON body it goes on with the message of the form that the body has, and
ends with all further information in order. A body of neither form, or of another media type,
stands whole at its end. -/
theorem refusal_message_tells_body (target : Target) (status : Nat) (body : Bytes) :
    let opening := target.bmcKind ++ " " ++ target.host ++ " HTTP " ++ Http.statusText status ++ ", "
    (plainForm? body = none ∨ localizedForm? body = none) ∧
    knownError? body =
      ((localizedForm? body).map localizedErrorText).or ((plainForm? body).map errorText) ∧
    ∀ contentType,
      let message := refusalMessage target status contentType body
      (∃ rest, message = opening ++ rest) ∧
      (∀ other, SameMedia contentType other →
        refusalMessage target status other body = message) ∧
      (PresentsJson contentType → ∀ error, plainForm? body = some error →
        Frames (opening ++ ("Redfish Error Message: " ++ error.message))
          (String.join (error.info.map entryText)) message) ∧
      (PresentsJson contentType → ∀ error, localizedForm? body = some error →
        message = opening ++ ("Redfish Error Message: " ++ error.value)) ∧
      (¬PresentsJson contentType ∨ plainForm? body = none ∧ localizedForm? body = none →
        Frames opening (Text.lossy body) message) := by
  intro opening
  have exclusive := plainForm?_or_localizedForm? body
  have either : knownError? body =
      ((localizedForm? body).map localizedErrorText).or ((plainForm? body).map errorText) := by
    rw [knownError?_eq]
    obtain none | none := exclusive <;> simp [none]
  refine ⟨exclusive, either, fun contentType => ?_⟩
  intro message
  have opens : message = opening ++ refusalText contentType body := rfl
  refine ⟨⟨_, opens⟩, fun _ => refusalMessage_eq_of_same, ?_, ?_, ?_⟩
  · intro json error plain
    have known : knownError? body = some (errorText error) := by
      rw [knownError?_eq, plain, Option.map_some, Option.some_or]
    rw [opens, refusalText_of_json json known]
    exact (frames_errorText error).prepend opening
  · intro json error localized
    have known : knownError? body = some (localizedErrorText error) := by
      rw [either, localized, Option.map_some, Option.some_or]
    have text : refusalText contentType body = "Redfish Error Message: " ++ error.value :=
      refusalText_of_json json known
    rw [opens, text]
  · intro unknown
    have formless : ¬PresentsJson contentType ∨ knownError? body = none := by
      refine unknown.imp_right fun neither => ?_
      rw [knownError?_eq, neither.1, neither.2]
      rfl
    have frames := (frames_refusalText_of_unknown formless).prepend opening
    rwa [String.append_empty, ← opens] at frames

theorem busy_node_tells_both_pieces :
    let node : Target := { bmcKind := "NodeBMC", host := "b" }
    let body := Text.utf8 "\x7b\"error\":\x7b\"message\":\"busy\",\"@Message.ExtendedInfo\":[\x7b\"Message\":\"locked\",\"Resolution\":\"wait\"\x7d,[\"late\"]]\x7d\x7d"
    let contentType := " Application/JSON ;charset=utf-8"
    let message := refusalMessage node 503 contentType body
    SameMedia contentType "application/json" ∧
    refusalMessage node 503 "application/json" body = message ∧
    Frames "NodeBMC b HTTP 503 Service Unavailable, Redfish Error Message: busy"
      " Message: locked Resolution: wait Message: late Resolution: " message := by
  intro node body contentType message
  let error : ErrorBody :=
    { code := none, message := "busy", info :=
      [{ message := some "locked", resolution := some "wait" },
        { message := some "late", resolution := none }] }
  have presents : Presents contentType "Application/JSON".toList :=
    ⟨by decide +kernel, [' '], [' '], ";charset=utf-8".toList, by decide +kernel,
      List.forall_mem_singleton.mpr rfl, List.forall_mem_singleton.mpr rfl, by simp⟩
  have plain : Presents "application/json" "application/json".toList :=
    ⟨by decide +kernel, [], [], [], by decide +kernel, by simp, by simp, by simp⟩
  have lowered : "Application/JSON".toList.map Char.toLower =
      "application/json".toList := by decide +kernel
  have same : SameMedia contentType "application/json" :=
    ⟨_, _, presents, plain, by decide +kernel⟩
  have form : plainForm? body = some error := by decide +kernel
  have opening : node.bmcKind ++ " " ++ node.host ++ " HTTP " ++ Http.statusText 503 ++ ", " ++
      ("Redfish Error Message: " ++ error.message) =
      "NodeBMC b HTTP 503 Service Unavailable, Redfish Error Message: busy" := by decide +kernel
  have ending : String.join (error.info.map entryText) =
      " Message: locked Resolution: wait Message: late Resolution: " := by decide +kernel
  obtain ⟨-, -, told⟩ := refusal_message_tells_body node 503 body
  obtain ⟨-, alike, framed, -⟩ := told contentType
  rw [← opening, ← ending]
  exact ⟨same, alike _ same, framed ⟨_, presents, lowered⟩ error form⟩

end ClusterPower.Bmc
