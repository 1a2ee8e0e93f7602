import ClusterPower.Cap.Error
import ClusterPower.Json.Reader
import ClusterPower.Redfish.Power

/-!
Reading power caps. `Cap.decode` takes the settings out of a power resource, and
`Cap.resources` lists the targets to read when every cap has a resource of its
own.
-/

namespace ClusterPower.Cap

open Redfish

def nodePowerLimit : String := "Node Power Limit"

/-! ## Decoding a reply -/

def decodeReason (text : String) : String :=
  if text.isEmpty then "EOF while parsing a value at line 1 column 0"
  else "not a power resource"

def ownSetting (power : Power) : CapSetting :=
  ⟨power.name.getD "", power.setPoint.getD 0⟩

/-- The setting of a zone limit, which is always that of the node. -/
def zoneSetting (limit : ZoneLimit) : CapSetting :=
  ⟨nodePowerLimit, limit.watts.getD 0⟩

def slotSetting (hpeServer : Bool) (control : PowerControl) : CapSetting :=
  ⟨if hpeServer then nodePowerLimit else control.name.getD "",
    (control.limit.bind (·.watts)).getD 0⟩

def settingsOf (target : Target) (power : Power) : Except CapError (List CapSetting) :=
  if power.error.isSome then .error .notLicensed
  else
    let settings :=
      if 0 < target.controlCount then [ownSetting power]
      else if 0 < power.zoneEntryCount then power.limits.map zoneSetting
      else power.controls.map (slotSetting target.traits.hpeServer)
    if settings.isEmpty then .error .noPowerData else .ok settings

def decode (target : Target) (text : String) : Except CapError (List CapSetting) :=
  match (Json.read? (Text.utf8 text)).bind Power.ofJson? with
  | some power => settingsOf target power
  | none => .error (.undecodable (decodeReason text))

/-! ## Resources to read -/

def sortedCaps (target : Target) : List CapDefinition :=
  target.caps.values.mergeSort fun left right => decide (left.name ≤ right.name)

/-- The targets to read for all caps. With separate controls there is one for each
cap, that of the whole node first. -/
def resources (target : Target) : List Target :=
  if target.controlCount = 0 then [target]
  else
    let (ofNode, others) :=
      (sortedCaps target).partition fun definition => definition.name == nodePowerLimit
    let primary := ofNode.getLast?.elim target fun definition =>
      target.withPowerPath definition.path
    primary :: others.map fun definition => target.withPowerPath definition.path

end ClusterPower.Cap
