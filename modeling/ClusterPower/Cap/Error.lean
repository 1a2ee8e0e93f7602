import ClusterPower.Target.Basic

/-! Why a power cap request or reply cannot be used. -/

namespace ClusterPower

inductive CapError where
  | duplicate (name : String)
  | belowMinimum (setting : CapSetting) (low : Int)
  | aboveMaximum (setting : CapSetting) (high : Int)
  | indexOutOfRange (name : String) (index length : Nat)
  | missingLimit
  | missingControl
  | notLicensed
  | noPowerData
  | undecodable (reason : String)
deriving DecidableEq, Repr

namespace CapError

def aboutValue (setting : CapSetting) : String :=
  "Control (" ++ setting.name ++ ") value (" ++ toString setting.watts ++ ")"

def message : CapError → String
  | .duplicate name => "Duplicate control specified: " ++ name
  | .belowMinimum setting low =>
    aboutValue setting ++ " is less than minimum (" ++ toString low ++ ")"
  | .aboveMaximum setting high =>
    aboutValue setting ++ " is greater than maximum (" ++ toString high ++ ")"
  | .indexOutOfRange name index length =>
    "Control (" ++ name ++ ") index (" ++ toString index ++
      ") is outside the PowerControl array (" ++ toString length ++ ")"
  | .missingLimit => "missing power limit information"
  | .missingControl => "missing power control information"
  | .notLicensed => "Invalid license"
  | .noPowerData => "No Redfish Power data"
  | .undecodable reason => "Error decoding Redfish Power data: " ++ reason

end CapError

end ClusterPower
