import ClusterPower.Coupling
import ClusterPower.Outcome
import ClusterPower.Settings.Basic

/-!
Who takes part in a campaign. With an inventory, boards that are powered by the
requested modules are pulled in first (`Roster`). Each target is then admitted
with the transitions it goes through, spared, or refused with the reason. One
refusal keeps the whole campaign from starting.
-/

namespace ClusterPower.Campaign

/-! ## Rosters -/

/-- The targets of a campaign in order, and names that no description was found
for. -/
structure Roster where
  targets : List Target
  missing : List String
deriving Inhabited

namespace Roster

def described? (targets : List Target) (xname : String) : Option Target :=
  targets.reverse.find? fun target => target.xname == xname

def resolve? (inventory : Inventory) (targets : List Target) (xname : String) :
    Option Target :=
  (described? targets xname).or ((inventory.component xname).map Target.detected)

def withBoards (inventory : Inventory) (transition : Transition) (targets : List Target) :
    Roster :=
  let names := Coupling.arrange inventory transition (targets.map (·.xname))
  { targets := names.filterMap (resolve? inventory targets)
    missing := names.filter fun xname => (resolve? inventory targets xname).isNone }

def ofRequest (inventory : Option Inventory) (transition : Transition)
    (targets : List Target) : Roster :=
  match inventory with
  | some inventory => withBoards inventory transition targets
  | none => ⟨targets, []⟩

end Roster

/-! ## Admission -/

inductive Obstacle where
  | noRule
  | blockedRole
  | unlistedKind
  | cannotRestart (error : ResetTokenError)
deriving DecidableEq, Repr

namespace Obstacle

def describeToken (target : Target) (error : ResetTokenError) : String :=
  target.bmcKind ++ " " ++ target.host ++ ": " ++ error.message

def message (transition : Transition) (target : Target) : Obstacle → String
  | .noRule => "no power controls for " ++ transition.name ++ " operation"
  | .blockedRole =>
    "Skipping " ++ target.xname ++ ": Role, '" ++ target.role ++ "', is blocked for '" ++
      transition.name ++ "'"
  | .unlistedKind =>
    "Skipping " ++ target.xname ++ ": Type, '" ++ target.kind.name ++
      "', not defined in power sequence for '" ++ transition.name ++ "'"
  | .cannotRestart error => describeToken target error

end Obstacle

/-- What a campaign does with a target. -/
inductive Admission where
  | admitted (steps : List Transition)
  | spared (error : ResetTokenError)
  | refused (obstacle : Obstacle)
deriving DecidableEq, Repr

def emulated : Transition → List Transition
  | .forceRestart => [.forceOff, .forceOn]
  | _ => [.off, .on]

/-- What to do with a target that is fit to take part: a restart that it cannot do
by itself depends on the settings. -/
def fitAdmission (settings : Settings) (transition : Transition) (target : Target) :
    Admission :=
  if transition.isRestart then
    match settings.resetToken transition target.resetTokens with
    | .ok _ => .admitted [transition]
    | .error error =>
      match settings.options.restartFallback with
      | .emulate => .admitted (emulated transition)
      | .refuse => .refused (.cannotRestart error)
      | .ignore => .spared error
  else .admitted [transition]

/-- Whether a role is blocked. Having no role is never blocked. -/
def blocksRole (settings : Settings) (transition : Transition) (role : String) : Bool :=
  !role.isEmpty && (settings.blockedRoles transition).contains role

def admission (settings : Settings) (transition : Transition) (target : Target) : Admission :=
  let order := settings.componentOrder transition
  if order.isEmpty then .refused .noRule
  else if blocksRole settings transition target.role then .refused .blockedRole
  else if !order.contains target.kind then .refused .unlistedKind
  else fitAdmission settings transition target

namespace Admission

/-- A target counts among the sequenced ones unless it was refused for what it is. -/
def isCounted : Admission → Bool
  | .admitted _ | .spared _ | .refused (.cannotRestart _) => true
  | .refused _ => false

def outcome? (transition : Transition) (target : Target) : Admission → Option Outcome
  | .admitted _ => none
  | .spared error =>
    some (.succeeded target ("Ignored: " ++ Obstacle.describeToken target error))
  | .refused obstacle => some (.failed target (obstacle.message transition target))

def steps : Admission → List Transition
  | .admitted steps => steps
  | _ => []

end Admission

def missingOutcome (xname : String) : Outcome :=
  .failed { xname } ("Skipping " ++ xname ++ ": dependent component not found in inventory")

end ClusterPower.Campaign
