import ClusterPower.Settings.Basic
import ClusterPower.Target.Json

/-!
The record form of settings. The same records are read from JSON and from TOML;
the two differ in how names of enumerations and records may be written, so the
readers of both are a parameter.
-/

namespace ClusterPower

/-- How a data format writes names of enumerations and records. -/
structure Dialect where
  name? : Json → Option String
  record? : List String → Json → Option Json.Record

namespace Dialect

def json : Dialect := ⟨Json.asName?, Json.asRecord?⟩

end Dialect

namespace ActionRule

def fieldNames : List String := ["BlockRole", "ComponentSequence", "ResetType"]

def ofJson? (dialect : Dialect) (value : Json) : Option ActionRule := do
  let record ← dialect.record? fieldNames value
  let blockedRoles ← record.defaulted? "BlockRole" (Json.asList? Json.asText?) []
  let componentOrder ←
    record.defaulted? "ComponentSequence" (Json.asList? ComponentKind.ofJson?) []
  let resetTokens ← record.defaulted? "ResetType" (Json.asList? Json.asText?) []
  some { blockedRoles, componentOrder, resetTokens }

def toJson (rule : ActionRule) : Json :=
  .object [
    ("BlockRole", .array (rule.blockedRoles.map .text)),
    ("ComponentSequence", .array (rule.componentOrder.map ComponentKind.toJson)),
    ("ResetType", .array (rule.resetTokens.map .text))]

end ActionRule

namespace RunOptions

def fieldNames : List String :=
  ["ActionMaxWorkers", "OnUnsupportedAction", "ReinitActionSeq", "WaitForOffRetries",
    "WaitForOffSleep"]

def ofJson? (dialect : Dialect) (value : Json) : Option RunOptions := do
  let record ← dialect.record? fieldNames value
  let preset : RunOptions := {}
  let maxWorkers ← record.defaulted? "ActionMaxWorkers" (Json.asNatural? 64) preset.maxWorkers
  let fallback? (value : Json) :=
    (dialect.name? value).bind fun name => RestartFallback.names.lookup name
  let restartFallback ←
    record.defaulted? "OnUnsupportedAction" fallback? preset.restartFallback
  let transition? (value : Json) := (dialect.name? value).bind Transition.named?
  let transitionOrder ←
    record.defaulted? "ReinitActionSeq" (Json.asList? transition?) preset.transitionOrder
  let offRetries ← record.defaulted? "WaitForOffRetries" (Json.asNatural? 32) preset.offRetries
  let offPause ← record.defaulted? "WaitForOffSleep" (Json.asNatural? 64) preset.offPause
  some { maxWorkers, restartFallback, transitionOrder, offRetries, offPause }

def toJson (options : RunOptions) : Json :=
  .object [
    ("ActionMaxWorkers", .ofNat options.maxWorkers),
    ("OnUnsupportedAction", .text options.restartFallback.name),
    ("ReinitActionSeq", .array (options.transitionOrder.map Transition.toJson)),
    ("WaitForOffRetries", .ofNat options.offRetries),
    ("WaitForOffSleep", .ofNat options.offPause)]

end RunOptions

namespace Settings

def fieldNames : List String := ["PowerControls", "CapmcConfiguration"]

def ofJson? (dialect : Dialect) (value : Json) : Option Settings := do
  let record ← dialect.record? fieldNames value
  let rules ←
    record.defaulted? "PowerControls" (Json.asTable? (ActionRule.ofJson? dialect))
      ActionRule.builtInTable
  let options ← record.defaulted? "CapmcConfiguration" (RunOptions.ofJson? dialect) {}
  some { rules, options }

def toJson (settings : Settings) : Json :=
  .object [
    ("PowerControls", .ofTable ActionRule.toJson settings.rules),
    ("CapmcConfiguration", settings.options.toJson)]

end Settings

end ClusterPower
