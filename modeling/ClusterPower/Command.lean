import ClusterPower.Text.Utf8
import ClusterPower.Transition

/-! Commands for one target. -/

namespace ClusterPower

/-- The body of a power cap request is ready made and never empty. -/
inductive Command where
  | readState
  | change (transition : Transition)
  | readCaps
  | writeCaps (body : Bytes)
deriving DecidableEq, Repr, Inhabited

namespace Command

def writeCaps? (body : Bytes) : Option Command :=
  if body.isEmpty then none else some (.writeCaps body)

def name : Command → String
  | .readState => "Status"
  | .change transition => transition.name
  | .readCaps => "GetPowerCap"
  | .writeCaps _ => "SetPowerCap"

def description : Command → String
  | .writeCaps body => "SetPowerCap(" ++ Text.lossy body ++ ")"
  | command => command.name

end Command

end ClusterPower
