import ClusterPower.Json.Record

/-!
The resources that a state poll may meet, and the error bodies of refused
requests.
-/

namespace ClusterPower.Redfish

def powerState? (value : Json) : Option (Option String) := do
  let record ← value.asRecord? ["PowerState"]
  record.optional? "PowerState" Json.asText?

def managerId? (value : Json) : Option (Option String) := do
  let record ← value.asRecord? ["Id"]
  record.optional? "Id" Json.asText?

/-! ## Error bodies -/

structure ExtendedInfo where
  message : Option String
  resolution : Option String
deriving DecidableEq, Repr, Inhabited

structure ErrorBody where
  code : Option String
  message : String
  info : List ExtendedInfo
deriving DecidableEq, Repr, Inhabited

/-- An error body with its message as a record of language and text. -/
structure LocalizedErrorBody where
  code : Option String
  language : Option String
  value : String
deriving DecidableEq, Repr, Inhabited

namespace ExtendedInfo

def ofJson? (value : Json) : Option ExtendedInfo := do
  let record ← value.asRecord? ["Message", "Resolution"]
  let message ← record.optional? "Message" Json.asText?
  let resolution ← record.optional? "Resolution" Json.asText?
  some { message, resolution }

end ExtendedInfo

def errorField? (value : Json) : Option Json := do
  let record ← value.asRecord? ["error"]
  record.get? "error"

namespace ErrorBody

def ofJson? (value : Json) : Option ErrorBody := do
  let body ← errorField? value
  let record ← body.asRecord? ["code", "message", "@Message.ExtendedInfo"]
  let code ← record.optional? "code" Json.asText?
  let message ← record.required? "message" Json.asText?
  let info ← record.defaulted? "@Message.ExtendedInfo" (Json.asList? ExtendedInfo.ofJson?) []
  some { code, message, info }

end ErrorBody

namespace LocalizedErrorBody

def ofJson? (value : Json) : Option LocalizedErrorBody := do
  let body ← errorField? value
  let record ← body.asRecord? ["code", "message"]
  let code ← record.optional? "code" Json.asText?
  let message ← record.get? "message"
  let record ← message.asRecord? ["lang", "value"]
  let language ← record.optional? "lang" Json.asText?
  let value ← record.required? "value" Json.asText?
  some { code, language, value }

end LocalizedErrorBody

end ClusterPower.Redfish
