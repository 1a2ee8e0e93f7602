import ClusterPower.Target.Description

/-!
Outcomes: what came of one command for one target. Code 0 is success, -1 a
failure on this side, and any other code the HTTP status of a refusal.
-/

namespace ClusterPower

structure Outcome where
  target : Target
  code : Int
  message : String
  state : String
deriving Inhabited

namespace Outcome

def stateOn : String := "On"

def stateOff : String := "Off"

def stateUnknown : String := "Unknown"

def stateSimulated : String := "Simulation only - request not sent to hardware"

def unfinished (target : Target) : Outcome :=
  ⟨target, -1, "", stateUnknown⟩

def failed (target : Target) (message : String) : Outcome :=
  ⟨target, -1, message, stateUnknown⟩

def succeeded (target : Target) (message : String) : Outcome :=
  ⟨target, 0, message, stateUnknown⟩

def found (target : Target) (state : String) : Outcome :=
  ⟨target, 0, "", state⟩

def simulated (target : Target) : Outcome :=
  found target stateSimulated

def isOk (outcome : Outcome) : Bool :=
  outcome.code == 0

def text (outcome : Outcome) : String :=
  outcome.target.xname ++ " rc=" ++ toString outcome.code ++ " state=" ++ outcome.state ++
    (if outcome.message.isEmpty then "" else " msg=" ++ outcome.message)

def description (outcome : Outcome) : String :=
  describeRecord "BmcPowerRc" [
    ("node", outcome.target.description), ("rc", toString outcome.code),
    ("msg", Text.quoted outcome.message), ("state", Text.quoted outcome.state)] true

end Outcome

end ClusterPower
