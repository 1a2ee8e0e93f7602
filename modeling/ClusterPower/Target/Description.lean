import ClusterPower.Target.Basic
import ClusterPower.Text.Quoted

/-!
Targets described for people, in logs. The password is masked, and fields that
do not help to tell targets apart are left out.
-/

namespace ClusterPower

def describeRecord (name : String) (fields : List (String × String)) (isComplete : Bool) :
    String :=
  let parts := fields.map fun (field, value) => field ++ ": " ++ value
  let parts := if isComplete then parts else parts ++ [".."]
  name ++ " \x7b " ++ ", ".intercalate parts ++ " \x7d"

def describeBoolean (value : Bool) : String :=
  if value then "true" else "false"

namespace ComponentKind

def description : ComponentKind → String
  | .other name => "Other(" ++ Text.quoted name ++ ")"
  | kind => kind.name

end ComponentKind

namespace Traits

def description (traits : Traits) : String :=
  describeRecord "Capabilities" [
    ("power_cap_style", traits.capStyle.name),
    ("hpe_server", describeBoolean traits.hpeServer),
    ("pdu", traits.outletMaker.elim "None" fun maker => "Some(" ++ maker.name ++ ")")] true

end Traits

namespace Target

def mask : String := "****"

def description (target : Target) : String :=
  describeRecord "NodeInfo" [
    ("xname", Text.quoted target.xname),
    ("nid", toString target.nid),
    ("component_type", target.kind.description),
    ("bmc_fqdn", Text.quoted target.host),
    ("bmc_user", Text.quoted target.user),
    ("bmc_pass", Text.quoted mask),
    ("bmc_type", Text.quoted target.bmcKind),
    ("rf_type", target.resource.name),
    ("rf_power_url", Text.quoted target.powerPath),
    ("capabilities", target.traits.description)] false

end Target

end ClusterPower
