import ClusterPower.Cap.Error
import ClusterPower.Command
import ClusterPower.Path
import ClusterPower.Redfish.Power
import ClusterPower.Redfish.Request

/-!
Power cap requests. `Cap.plan` checks the settings asked for against a target's
own caps and builds the one body that the target understands: an indexed array,
a list of limits to post, or members of a collection of controls.
-/

namespace ClusterPower.Cap

open Redfish

/-! ## Checking settings -/

abbrev Defined := CapSetting × CapDefinition

def definedSettings (target : Target) (settings : List CapSetting) : List Defined :=
  settings.filterMap fun setting =>
    (target.caps.get? setting.name).map fun definition => (setting, definition)

/-- What is wrong with one setting, given the names set before it. Zero takes a
cap away and so may be below the minimum. -/
def fault? (target : Target) (earlier : List String) (defined : Defined) :
    Option CapError :=
  let (setting, definition) := defined
  if earlier.contains setting.name then some (.duplicate setting.name)
  else if definition.low ≠ unbounded ∧ setting.watts < definition.low ∧ setting.watts ≠ 0 then
    some (.belowMinimum setting definition.low)
  else if definition.high ≠ unbounded ∧ definition.high < setting.watts then
    some (.aboveMaximum setting definition.high)
  else if target.traits.capStyle = .indexed ∧ target.slotCount ≤ definition.index then
    some (.indexOutOfRange setting.name definition.index target.slotCount)
  else none

def firstFault? (target : Target) (earlier : List String) : List Defined → Option CapError
  | [] => none
  | defined :: rest =>
    (fault? target earlier defined).or
      (firstFault? target (earlier ++ [defined.1.name]) rest)

/-! ## Payloads -/

inductive Payload where
  | indexed (controls : List PowerControl)
  | posted (limits : ZoneLimits)
  | members (collection : ControlMembers)
deriving DecidableEq, Repr

namespace Payload

def shape : Payload → String
  | .indexed _ => "PowerControl"
  | .posted _ => "HpePowerLimit"
  | .members _ => "Controls"

def toJson : Payload → Json
  | .indexed controls => .object [("PowerControl", .array (controls.map PowerControl.toJson))]
  | .posted limits => limits.toJson
  | .members collection => collection.toJson

def body (payload : Payload) : Except CapError Bytes :=
  match payload with
  | .indexed [] => .error .missingControl
  | .posted ⟨[]⟩ => .error .missingLimit
  | .members ⟨[]⟩ => .error .missingLimit
  | payload => .ok (Redfish.body payload.toJson)

end Payload

/-- The slots of an indexed array, with each setting in its place; a later
setting of the same place wins and all other places stay empty. -/
def slots (count : Nat) (defined : List Defined) : List PowerControl :=
  defined.foldl (fun slots (setting, definition) =>
    slots.set definition.index { limit := some { watts := some setting.watts } })
    (List.replicate count {})

def zoneLimit (setting : CapSetting) : ZoneLimit where
  watts := some setting.watts
  zone := some 0

def member (defined : Defined) : ControlMember :=
  let (setting, definition) := defined
  if 0 < setting.watts then
    { id := definition.path, setPoint := some setting.watts, mode := .automatic }
  else { id := definition.path, mode := .disabled }

def collectionPath (path : String) : String :=
  Path.parent (Path.parent path) ++ "/Controls.Deep"

/-! ## Plans -/

structure Plan where
  target : Target
  payload : Payload

/-- The plan for settings without a fault; none if no cap of the target is set. -/
def planDefined? (target : Target) (defined : List Defined) : Option Plan :=
  match defined with
  | [] => none
  | first :: _ =>
    some (
      match target.traits.capStyle with
      | .members => {
          target := target.withPowerPath (collectionPath first.2.path)
          payload := .members ⟨defined.map member⟩ }
      | .posted => {
          target
          payload := .posted ⟨[zoneLimit (defined.getLastD first).1]⟩ }
      | .indexed => {
          target
          payload := .indexed (slots target.slotCount defined) })

def plan (target : Target) (settings : List CapSetting) : Except CapError (Option Plan) :=
  let defined := definedSettings target settings
  match firstFault? target [] defined with
  | some error => .error error
  | none => .ok (planDefined? target defined)

def command (target : Target) (settings : List CapSetting) :
    Except CapError (Option (Target × Command)) :=
  match plan target settings with
  | .error error => .error error
  | .ok none => .ok none
  | .ok (some plan) =>
    match plan.payload.body with
    | .error error => .error error
    | .ok body =>
      match Command.writeCaps? body with
      | some command => .ok (some (plan.target, command))
      | none => .error .missingControl

end ClusterPower.Cap
