import ClusterPower.Json.Record

/-!
Redfish resources about power limits, in the fields that are read or written.
All else in a reply is skipped. Each shape has a reader `ofJson?` and a writer
`toJson`; optional fields that are absent are left out, except where a null has
a meaning of its own.
-/

namespace ClusterPower.Redfish

structure PowerLimit where
  watts : Option Int := none
deriving DecidableEq, Repr, Inhabited

namespace PowerLimit

def ofJson? (value : Json) : Option PowerLimit := do
  let record ← value.asRecord? ["LimitInWatts"]
  let watts ← record.nullable? "LimitInWatts" Json.asInt64?
  some { watts }

def toJson (limit : PowerLimit) : Json :=
  .object [("LimitInWatts", .ofOptional .integer limit.watts)]

end PowerLimit

structure PowerControl where
  name : Option String := none
  limit : Option PowerLimit := none
deriving DecidableEq, Repr, Inhabited

namespace PowerControl

def ofJson? (value : Json) : Option PowerControl := do
  let record ← value.asRecord? ["Name", "PowerLimit"]
  let name ← record.optional? "Name" Json.asText?
  let limit ← record.optional? "PowerLimit" PowerLimit.ofJson?
  some { name, limit }

def toJson (control : PowerControl) : Json :=
  .object (Json.optionalMember "Name" .text control.name ++
    Json.optionalMember "PowerLimit" PowerLimit.toJson control.limit)

end PowerControl

structure ZoneLimit where
  watts : Option Int := none
  zone : Option Int := none
deriving DecidableEq, Repr, Inhabited

namespace ZoneLimit

def ofJson? (value : Json) : Option ZoneLimit := do
  let record ← value.asRecord? ["PowerLimitInWatts", "ZoneNumber"]
  let watts ← record.nullable? "PowerLimitInWatts" Json.asInt64?
  let zone ← record.nullable? "ZoneNumber" Json.asInt64?
  some { watts, zone }

def toJson (limit : ZoneLimit) : Json :=
  .object [
    ("PowerLimitInWatts", .ofOptional .integer limit.watts),
    ("ZoneNumber", .ofOptional .integer limit.zone)]

end ZoneLimit

structure ZoneLimits where
  limits : List ZoneLimit
deriving DecidableEq, Repr, Inhabited

namespace ZoneLimits

def ofJson? (value : Json) : Option ZoneLimits := do
  let record ← value.asRecord? ["PowerLimits"]
  let limits ← record.required? "PowerLimits" (Json.asList? ZoneLimit.ofJson?)
  some { limits }

def toJson (limits : ZoneLimits) : Json :=
  .object [("PowerLimits", .array (limits.limits.map ZoneLimit.toJson))]

end ZoneLimits

inductive ControlMode where
  | automatic
  | disabled
deriving DecidableEq, Repr, Inhabited

namespace ControlMode

def name : ControlMode → String
  | .automatic => "Automatic"
  | .disabled => "Disabled"

def names : List (String × ControlMode) :=
  [ControlMode.automatic, .disabled].map fun mode => (mode.name, mode)

end ControlMode

structure ControlMember where
  id : String
  setPoint : Option Int := none
  mode : ControlMode
deriving DecidableEq, Repr, Inhabited

namespace ControlMember

def ofJson? (value : Json) : Option ControlMember := do
  let record ← value.asRecord? ["@odata.id", "SetPoint", "ControlMode"]
  let id ← record.required? "@odata.id" Json.asText?
  let setPoint ← record.optional? "SetPoint" Json.asInt64?
  let mode ← record.required? "ControlMode" (Json.asEnumeration? ControlMode.names)
  some { id, setPoint, mode }

def toJson (member : ControlMember) : Json :=
  .object ([("@odata.id", .text member.id)] ++
    Json.optionalMember "SetPoint" .integer member.setPoint ++
    [("ControlMode", .text member.mode.name)])

end ControlMember

structure ControlMembers where
  members : List ControlMember
deriving DecidableEq, Repr, Inhabited

namespace ControlMembers

def ofJson? (value : Json) : Option ControlMembers := do
  let record ← value.asRecord? ["Members"]
  let members ← record.required? "Members" (Json.asList? ControlMember.ofJson?)
  some { members }

def toJson (members : ControlMembers) : Json :=
  .object [("Members", .array (members.members.map ControlMember.toJson))]

end ControlMembers

/-! ## The power resource -/

/-- A power resource, or a single control resource in its place. -/
structure Power where
  etag : Option String := none
  name : Option String := none
  controls : List PowerControl := []
  error : Option Json.FreeForm := none
  actualLimits : List ZoneLimit := []
  limitRanges : List Json.FreeForm := []
  limits : List ZoneLimit := []
  setPoint : Option Int := none

namespace Power

def fieldNames : List String :=
  ["@odata.etag", "Name", "PowerControl", "error", "ActualPowerLimits", "PowerLimitRanges",
    "PowerLimits", "SetPoint"]

def ofJson? (value : Json) : Option Power := do
  let record ← value.asRecord? fieldNames
  let etag ← record.optional? "@odata.etag" Json.asText?
  let name ← record.optional? "Name" Json.asText?
  let controls ← record.defaulted? "PowerControl" (Json.asList? PowerControl.ofJson?) []
  let error ← record.optional? "error" Json.freeForm?
  let actualLimits ←
    record.defaulted? "ActualPowerLimits" (Json.asList? ZoneLimit.ofJson?) []
  let limitRanges ← record.defaulted? "PowerLimitRanges" (Json.asList? Json.freeForm?) []
  let limits ← record.defaulted? "PowerLimits" (Json.asList? ZoneLimit.ofJson?) []
  let setPoint ← record.optional? "SetPoint" Json.asInt64?
  some { etag, name, controls, error, actualLimits, limitRanges, limits, setPoint }

def toJson (power : Power) : Json :=
  .object (
    Json.optionalMember "@odata.etag" .text power.etag ++
    Json.optionalMember "Name" .text power.name ++
    Json.listMember "PowerControl" PowerControl.toJson power.controls ++
    Json.optionalMember "error" Json.FreeForm.value power.error ++
    Json.listMember "ActualPowerLimits" ZoneLimit.toJson power.actualLimits ++
    Json.listMember "PowerLimitRanges" Json.FreeForm.value power.limitRanges ++
    Json.listMember "PowerLimits" ZoneLimit.toJson power.limits ++
    Json.optionalMember "SetPoint" .integer power.setPoint)

def zoneEntryCount (power : Power) : Nat :=
  power.actualLimits.length + power.limitRanges.length + power.limits.length

end Power

end ClusterPower.Redfish
