import ClusterPower.Json.Record
import ClusterPower.Target.Basic
import ClusterPower.Transition

/-!
The JSON forms of targets and their parts. Every field of a target may be
missing; `Target.ofJson?` and `Target.toJson` use the same names in the same
order.
-/

namespace ClusterPower

namespace Transition

def ofJson? : Json → Option Transition :=
  Json.asEnumeration? (all.map fun transition => (transition.name, transition))

def toJson (transition : Transition) : Json :=
  .text transition.name

end Transition

namespace ComponentKind

def ofJson? (value : Json) : Option ComponentKind :=
  value.asText?.map ofName

def toJson (kind : ComponentKind) : Json :=
  .text kind.name

end ComponentKind

namespace ResourceKind

def ofJson? (value : Json) : Option ResourceKind :=
  value.asName?.map ofName

def toJson (kind : ResourceKind) : Json :=
  .text kind.name

end ResourceKind

namespace Traits

def fieldNames : List String := ["power_cap_style", "hpe_server", "pdu"]

def ofJson? (value : Json) : Option Traits := do
  let record ← value.asRecord? fieldNames
  let capStyle ← record.required? "power_cap_style" (Json.asEnumeration? CapStyle.names)
  let hpeServer ← record.required? "hpe_server" Json.asBoolean?
  let outletMaker ← record.nullable? "pdu" (Json.asEnumeration? OutletMaker.names)
  some { capStyle, hpeServer, outletMaker }

def toJson (traits : Traits) : Json :=
  .object [
    ("power_cap_style", .text traits.capStyle.name),
    ("hpe_server", .boolean traits.hpeServer),
    ("pdu", .ofOptional (fun maker => .text maker.name) traits.outletMaker)]

end Traits

namespace CapDefinition

def fieldNames : List String := ["name", "path", "min", "max", "index"]

def ofJson? (value : Json) : Option CapDefinition := do
  let record ← value.asRecord? fieldNames
  let name ← record.defaulted? "name" Json.asText? ""
  let path ← record.defaulted? "path" Json.asText? ""
  let low ← record.defaulted? "min" Json.asInt64? unbounded
  let high ← record.defaulted? "max" Json.asInt64? unbounded
  let index ← record.defaulted? "index" (Json.asNatural? 64) 0
  some { name, path, low, high, index }

def toJson (definition : CapDefinition) : Json :=
  .object [
    ("name", .text definition.name),
    ("path", .text definition.path),
    ("min", .integer definition.low),
    ("max", .integer definition.high),
    ("index", .ofNat definition.index)]

end CapDefinition

namespace CapSetting

def ofJson? (value : Json) : Option CapSetting := do
  let record ← value.asRecord? ["name", "val"]
  let name ← record.required? "name" Json.asText?
  let watts ← record.required? "val" Json.asInt64?
  some { name, watts }

def toJson (setting : CapSetting) : Json :=
  .object [("name", .text setting.name), ("val", .integer setting.watts)]

end CapSetting

namespace Target

def fieldNames : List String :=
  ["xname", "hostname", "nid", "role", "component_type", "bmc_fqdn", "bmc_user", "bmc_pass",
    "bmc_type", "bmc_path", "rf_type", "rf_action_uri", "rf_reset_types", "rf_power_url",
    "rf_power_target", "rf_pwr_ctl_cnt", "rf_controls_cnt", "power_caps", "capabilities"]

def ofJson? (value : Json) : Option Target := do
  let record ← value.asRecord? fieldNames
  let text (name : String) := record.defaulted? name Json.asText? ""
  let xname ← text "xname"
  let hostname ← text "hostname"
  let nid ← record.defaulted? "nid" Json.asInt64? 0
  let role ← text "role"
  let kind ← record.defaulted? "component_type" ComponentKind.ofJson? .node
  let host ← text "bmc_fqdn"
  let user ← text "bmc_user"
  let password ← text "bmc_pass"
  let bmcKind ← text "bmc_type"
  let basePath ← text "bmc_path"
  let resource ← record.defaulted? "rf_type" ResourceKind.ofJson? .unknown
  let actionPath ← text "rf_action_uri"
  let resetTokens ← record.defaulted? "rf_reset_types" (Json.asList? Json.asText?) []
  let powerPath ← text "rf_power_url"
  let limitPath ← text "rf_power_target"
  let slotCount ← record.defaulted? "rf_pwr_ctl_cnt" (Json.asNatural? 64) 0
  let controlCount ← record.defaulted? "rf_controls_cnt" (Json.asNatural? 64) 0
  let caps ← record.defaulted? "power_caps" (Json.asTable? CapDefinition.ofJson?) .empty
  let traits ← record.defaulted? "capabilities" Traits.ofJson? {}
  some {
    xname, hostname, nid, role, kind, host, user, password, bmcKind, basePath, resource,
    actionPath, resetTokens, powerPath, limitPath, slotCount, controlCount, caps, traits }

def toJson (target : Target) : Json :=
  .object [
    ("xname", .text target.xname),
    ("hostname", .text target.hostname),
    ("nid", .integer target.nid),
    ("role", .text target.role),
    ("component_type", target.kind.toJson),
    ("bmc_fqdn", .text target.host),
    ("bmc_user", .text target.user),
    ("bmc_pass", .text target.password),
    ("bmc_type", .text target.bmcKind),
    ("bmc_path", .text target.basePath),
    ("rf_type", target.resource.toJson),
    ("rf_action_uri", .text target.actionPath),
    ("rf_reset_types", .array (target.resetTokens.map .text)),
    ("rf_power_url", .text target.powerPath),
    ("rf_power_target", .text target.limitPath),
    ("rf_pwr_ctl_cnt", .ofNat target.slotCount),
    ("rf_controls_cnt", .ofNat target.controlCount),
    ("power_caps", .ofTable CapDefinition.toJson target.caps),
    ("capabilities", target.traits.toJson)]

end Target

end ClusterPower
