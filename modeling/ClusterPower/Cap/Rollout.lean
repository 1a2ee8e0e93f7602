import ClusterPower.Cap.Request
import ClusterPower.FanOut

/-!
Setting power caps on many targets. Each target has a request of its own or is
refused; the commands are then found again by the names of the targets.
-/

namespace ClusterPower.Cap

/-- What settings come to for a list of targets. A target without any of the caps is
passed over. -/
structure Rollout where
  refused : List (Target × CapError) := []
  planned : List (Target × Command) := []

namespace Rollout

def add (settings : List CapSetting) (rollout : Rollout) (target : Target) : Rollout :=
  match Cap.command target settings with
  | .error error => { rollout with refused := rollout.refused ++ [(target, error)] }
  | .ok none => rollout
  | .ok (some call) => { rollout with planned := rollout.planned ++ [call] }

def ofTargets (settings : List CapSetting) (targets : List Target) : Rollout :=
  targets.foldl (add settings) {}

def commands (rollout : Rollout) : Table Command :=
  .ofList (rollout.planned.map fun (target, command) => (target.xname, command))

def calls (rollout : Rollout) : List (Target × Command) :=
  FanOut.callsByName rollout.commands (rollout.planned.map (·.1))

end Rollout

end ClusterPower.Cap
