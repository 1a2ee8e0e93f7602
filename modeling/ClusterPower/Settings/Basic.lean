import ClusterPower.Target.Basic
import ClusterPower.Transition

/-!
Settings of the service: for each transition a rule with the reset tokens to
try, the order of the component kinds and the roles it is refused to, and
options of a run. `Settings.resetToken` picks the token for one target.
-/

namespace ClusterPower

structure ActionRule where
  blockedRoles : List String := []
  componentOrder : List ComponentKind := []
  resetTokens : List String := []
deriving DecidableEq, Repr, Inhabited

inductive RestartFallback where
  | emulate
  | refuse
  | ignore
deriving DecidableEq, Repr, Inhabited

namespace RestartFallback

def name : RestartFallback → String
  | .emulate => "simulate"
  | .refuse => "error"
  | .ignore => "ignore"

def names : List (String × RestartFallback) :=
  [RestartFallback.emulate, .refuse, .ignore].map fun fallback => (fallback.name, fallback)

end RestartFallback

structure RunOptions where
  maxWorkers : Nat := 1000
  restartFallback : RestartFallback := .emulate
  transitionOrder : List Transition :=
    [.off, .forceOff, .restart, .forceRestart, .on, .forceOn, .nonMaskableInterrupt]
  offRetries : Nat := 60
  offPause : Nat := 15
deriving DecidableEq, Repr, Inhabited

/-- The token that presses the power button, which turns a component on or off
depending on its state. -/
def pushPowerButton : String := "PushPowerButton"

def onOrder : List ComponentKind :=
  [.powerConnector, .outlet, .chassis, .routerModule, .networkBoard, .computeModule, .node]

namespace ActionRule

def builtIn : Transition → ActionRule
  | .on => { componentOrder := onOrder, resetTokens := ["On", "ForceOn", pushPowerButton] }
  | .forceOn => { componentOrder := onOrder, resetTokens := ["ForceOn"] }
  | .off => {
      componentOrder := onOrder.reverse
      resetTokens := ["GracefulShutdown", "Off", pushPowerButton] }
  | .forceOff => { componentOrder := onOrder.reverse, resetTokens := ["ForceOff"] }
  | .restart => { componentOrder := [.node], resetTokens := ["GracefulRestart"] }
  | .forceRestart => {
      componentOrder := [.node]
      resetTokens := ["ForceRestart", "PowerCycle"] }
  | .nonMaskableInterrupt => { componentOrder := [.node], resetTokens := ["Nmi"] }

def builtInTable : Table ActionRule :=
  .ofList (Transition.all.map fun transition => (transition.name, builtIn transition))

end ActionRule

structure Settings where
  rules : Table ActionRule := ActionRule.builtInTable
  options : RunOptions := {}
deriving Inhabited

/-! ## Reset tokens -/

inductive ResetTokenError where
  | noRule (transition : Transition)
  | noneAllowed (transition : Transition)
deriving DecidableEq, Repr

namespace ResetTokenError

def message : ResetTokenError → String
  | .noRule transition => "no power controls for " ++ transition.name ++ " operation"
  | .noneAllowed transition =>
    "no supported ResetType for " ++ transition.name ++ " operation"

end ResetTokenError

namespace Settings

def rule? (settings : Settings) (transition : Transition) : Option ActionRule :=
  settings.rules.get? transition.name

def componentOrder (settings : Settings) (transition : Transition) : List ComponentKind :=
  (settings.rule? transition).elim [] (·.componentOrder)

def blockedRoles (settings : Settings) (transition : Transition) : List String :=
  (settings.rule? transition).elim [] (·.blockedRoles)

def resetToken (settings : Settings) (transition : Transition) (allowed : List String) :
    Except ResetTokenError String :=
  match (settings.rule? transition).elim [] (·.resetTokens) with
  | [] => .error (.noRule transition)
  | preferred =>
    match preferred.find? allowed.contains with
    | some token => .ok token
    | none => .error (.noneAllowed transition)

example : (resetToken {} .off ["ForceOff", "Off", "GracefulShutdown"]).toOption =
    some "GracefulShutdown" := by decide +kernel

end Settings

end ClusterPower
