import ClusterPower.Json.Writer
import ClusterPower.Json.Record
import ClusterPower.Text.LowerCase
import ClusterPower.Text.Utf8

/-!
Bodies of the requests that switch power. Which one a target takes depends on
the maker of its outlet, if it is one.
-/

namespace ClusterPower.Redfish

def body (value : Json) : Bytes :=
  Text.utf8 value.compact

def resetRequest (token : String) : Json :=
  .object [("ResetType", .text token)]

def powerStateRequest (token : String) : Json :=
  .object [("PowerState", .text token)]

def sessionRequest (user password : String) : Json :=
  .object [("username", .text user), ("password", .text password)]

def outletRequest (outlet : Nat) (token : String) : Json :=
  .object [
    ("OutletNumber", .ofNat outlet),
    ("StartupState", .text "on"),
    ("Outletname", .text ("OUTLET" ++ toString outlet)),
    ("OnDelay", .integer 0),
    ("OffDelay", .integer 0),
    ("RebootDelay", .integer 5),
    ("OutletStatus", .text (Text.lowerCase token))]

end ClusterPower.Redfish
