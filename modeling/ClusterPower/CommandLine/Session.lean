import ClusterPower.Campaign.Course
import ClusterPower.Cap.Groups
import ClusterPower.Cap.Reading
import ClusterPower.Cap.Rollout
import ClusterPower.CommandLine.Invocation
import ClusterPower.Http.CertificateBundle
import ClusterPower.Json.Writer
import ClusterPower.Settings.Document
import ClusterPower.StateReport

/-!
Sessions of the tool. `CommandLine.session` is all that the tool does for a command
line, given the files that it can read: a conversation with the BMCs that ends in an
exit code and the text written.
-/

namespace ClusterPower.CommandLine

abbrev Files := String → Option Bytes

inductive Obstacle where
  | settings (path : String) (error : SettingsError)
  | certificates
  | targets
  | inventory
  | noForcedForm (transition : Transition)
deriving Repr

namespace Obstacle

def message : Obstacle → String
  | .settings path error =>
    (error.messageAt? path).getD ("configuration error: " ++ path ++ ": malformed document")
  | .certificates => "the certificates cannot be used"
  | .targets => "the list of targets cannot be read"
  | .inventory => "the inventory cannot be read"
  | .noForcedForm transition => "Cannot force the " ++ transition.name ++ " operation"

end Obstacle

/-! ## Summaries -/

structure Summary where
  lines : List String := []
  failures : Nat := 0
deriving DecidableEq, Repr, Inhabited

namespace Summary

def append (left right : Summary) : Summary :=
  ⟨left.lines ++ right.lines, left.failures + right.failures⟩

def concat (summaries : List Summary) : Summary :=
  summaries.foldl append {}

def ofCapError (target : Target) (error : CapError) : Summary :=
  ⟨[target.xname ++ " rc=-1 msg=" ++ error.message], 1⟩

def ofOutcome (outcome : Outcome) : Summary :=
  ⟨[outcome.text], if outcome.isOk then 0 else 1⟩

def ofOutcomes (outcomes : List Outcome) : Summary :=
  concat (outcomes.map ofOutcome)

def ofReading (outcome : Outcome) : Summary :=
  if outcome.isOk then
    match Cap.decode outcome.target outcome.message with
    | .ok settings =>
      ⟨settings.map fun setting =>
        outcome.target.xname ++ " " ++ setting.name ++ "=" ++ toString setting.watts, 0⟩
    | .error error => ofCapError outcome.target error
  else ofOutcome outcome

def countsText (report : StateReport) : String :=
  "on: " ++ toString report.on.length ++ "  off: " ++ toString report.off.length ++
    "  undefined: " ++ toString report.undefined.length ++
    "  errors: " ++ toString report.errors.length

def ofStates (outcomes : List Outcome) : Summary :=
  let report := StateReport.ofOutcomes outcomes
  ⟨outcomes.map (·.text) ++ [countsText report], report.errors.length⟩

def ofReport (report : Campaign.Report) : Summary :=
  ⟨report.outcomes.map (·.text), report.failures⟩

def ofGroups (groups : List Cap.Group) : Summary :=
  ⟨[Json.indented 0 (.array (groups.map Cap.Group.toJson))], 0⟩

def ofRefused (refused : List (Target × CapError)) : Summary :=
  concat (refused.map fun (target, error) => ofCapError target error)

end Summary

/-! ## Exits -/

structure Exit where
  code : Nat
  output : String := ""
  complaint : String := ""
deriving DecidableEq, Repr, Inhabited

namespace Exit

def version : String := "capmcd 0.1.0"

def usage : String := "Usage: bmc-power [OPTIONS] --nodes <NODES> <COMMAND>"

def ofRefusal (refusal : Refusal) : Exit :=
  match refusal with
  | .help => { code := 0, output := usage ++ "\n" }
  | .version => { code := 0, output := version ++ "\n" }
  | _ => { code := 2, complaint := usage ++ "\n" }

def ofObstacle (obstacle : Obstacle) : Exit where
  code := 1
  complaint := "Error: " ++ obstacle.message ++ "\n"

def ofSummary (summary : Summary) : Exit where
  code := if 0 < summary.failures then 1 else 0
  output := String.join (summary.lines.map (· ++ "\n"))

end Exit

/-! ## Tasks -/

/-- What the tool works with. -/
structure Workshop where
  gateway : Gateway
  pool : Pool
  targets : List Target

def jobsPerWorker : Nat := 4

namespace Workshop

def readTargets (files : Files) (path : String) : Except Obstacle (List Target) :=
  match ((files path).bind Json.read?).bind (Json.asList? Target.ofJson?) with
  | some targets => .ok (targets.map Target.detected)
  | none => .error .targets

def readSettings (files : Files) : Option String → Except Obstacle Settings
  | none => .ok {}
  | some path => (Settings.ofFile (files path)).mapError (.settings path)

def checkCertificates (files : Files) : Option String → Except Obstacle Unit
  | none => .ok ()
  | some path =>
    if (files path).any Http.CertificateBundle.isUsable then .ok ()
    else .error .certificates

def equip (files : Files) (invocation : Invocation) : Except Obstacle Workshop := do
  let settings ← readSettings files invocation.settings
  checkCertificates files invocation.certificates
  let targets ← readTargets files invocation.targets
  let pool := Pool.create invocation.workers (invocation.workers * jobsPerWorker)
  .ok {
    gateway := { settings, simulation := invocation.simulateOnly, scheme := "https" }
    pool := pool.start
    targets }

def run (workshop : Workshop) (calls : List (Target × Command)) :
    Conversation (List Outcome) :=
  FanOut.run workshop.gateway workshop.pool calls

def readStates (workshop : Workshop) : Conversation Summary := do
  return .ofStates (← workshop.run (FanOut.callsOf .readState workshop.targets))

def readCaps (workshop : Workshop) : Conversation Summary := do
  let targets := workshop.targets.flatMap Cap.resources
  let outcomes ← workshop.run (FanOut.callsOf .readCaps targets)
  return .concat (outcomes.map Summary.ofReading)

def setCaps (workshop : Workshop) (settings : List CapSetting) : Conversation Summary := do
  let rollout := Cap.Rollout.ofTargets settings workshop.targets
  let outcomes ← workshop.run rollout.calls
  return (Summary.ofRefused rollout.refused).append (.ofOutcomes outcomes)

def change (workshop : Workshop) (inventory : Option Inventory) (transition : Transition) :
    Conversation Summary := do
  return .ofReport
    (← Campaign.run workshop.gateway workshop.pool inventory transition workshop.targets)

end Workshop

def readInventory (files : Files) : Option String → Except Obstacle (Option Inventory)
  | none => .ok none
  | some path =>
    match ((files path).bind Json.read?).bind InventoryTables.ofJson? with
    | some tables => .ok (some tables.inventory)
    | none => .error .inventory

def chosen (transition : Transition) (forced : Bool) : Except Obstacle Transition :=
  if forced then
    match transition.forced? with
    | some transition => .ok transition
    | none => .error (.noForcedForm transition)
  else .ok transition

def Invocation.carryOut (files : Files) (invocation : Invocation) :
    Except Obstacle (Conversation Summary) := do
  let workshop ← Workshop.equip files invocation
  match invocation.task with
  | .readStates => .ok workshop.readStates
  | .readCaps => .ok workshop.readCaps
  | .groupCaps => .ok (.done (.ofGroups (Cap.groups workshop.targets)))
  | .setCaps settings => .ok (workshop.setCaps settings)
  | .change transition forced => do
    let transition ← chosen transition forced
    let inventory ← readInventory files invocation.inventory
    .ok (workshop.change inventory transition)

def session (files : Files) (arguments : List String) : Conversation Exit :=
  match Invocation.read arguments with
  | .error refusal => .done (.ofRefusal refusal)
  | .ok invocation =>
    match invocation.carryOut files with
    | .error obstacle => .done (.ofObstacle obstacle)
    | .ok conversation => conversation.bind fun summary => .done (.ofSummary summary)

end ClusterPower.CommandLine
