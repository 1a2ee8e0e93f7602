import ClusterPower.Campaign.Admission
import ClusterPower.FanOut

/-!
The course of a campaign. A campaign goes through the transitions in the
configured order, and for each transition through the component kinds in the order
of its rule. The targets of one stage are cut into rounds. A round sends the
transition to its targets at once, and, when turning off, waits for each success
to be off. Targets that have failed are left out of all later stages.

A course is data: what it asks for and how it goes on with the outcomes, in
whatever order they arrive.
-/

namespace ClusterPower.Campaign

/-! ## Reports -/

structure Report where
  outcomes : List Outcome := []
  failures : Nat := 0
  total : Nat := 0
  error : Option String := none
deriving Inhabited

namespace Report

def isOk (report : Report) : Bool :=
  report.error.isNone

def note (report : Report) (outcome : Outcome) : Report :=
  { report with outcomes := report.outcomes ++ [outcome] }

def fail (report : Report) (outcome : Outcome) : Report :=
  { report.note outcome with failures := report.failures + 1 }

end Report

/-- A report with the names of the targets that have failed so far. -/
structure Progress where
  failed : List String := []
  report : Report
deriving Inhabited

namespace Progress

def record (progress : Progress) (outcome : Outcome) : Progress :=
  if outcome.isOk then { progress with report := progress.report.note outcome }
  else {
    failed := progress.failed ++ [outcome.target.xname]
    report := progress.report.fail outcome }

def recordAll (progress : Progress) (outcomes : List Outcome) : Progress :=
  outcomes.foldl record progress

end Progress

/-! ## Courses -/

/-- What a campaign asks of the machinery that carries it out. -/
inductive Course (Result : Type) where
  | done (result : Result)
  | change (step : Transition) (targets : List Target)
      (next : List Outcome → Course Result)
  | awaitOff (targets : List Target) (next : List Outcome → Course Result)

namespace Course

variable {Result Next Item : Type}

def bind (course : Course Result) (following : Result → Course Next) : Course Next :=
  match course with
  | .done result => following result
  | .change step targets next =>
    .change step targets fun outcomes => (next outcomes).bind following
  | .awaitOff targets next => .awaitOff targets fun outcomes => (next outcomes).bind following

def through (body : Item → Result → Course Result) : List Item → Result → Course Result
  | [], result => .done result
  | item :: rest, result => (body item result).bind (through body rest)

end Course

/-! ## Rounds -/

/-- One round. Outcomes of a step that turns targets off are final only when they
are off, or have failed. -/
def round (simulation : Bool) (step : Transition) (targets : List Target)
    (progress : Progress) : Course Progress :=
  .change step targets fun outcomes =>
    if step.isOff && !simulation then
      let progress := progress.recordAll (outcomes.filter fun outcome => !outcome.isOk)
      match outcomes.filter Outcome.isOk with
      | [] => .done progress
      | pending =>
        .awaitOff (pending.map (·.target)) fun outcomes => .done (progress.recordAll outcomes)
    else .done (progress.recordAll outcomes)

/-! ## Stages -/

/-- All targets of one kind that go through one transition. -/
structure Stage where
  step : Transition
  kind : ComponentKind
deriving DecidableEq, Repr

def stages (settings : Settings) : List Stage :=
  settings.options.transitionOrder.flatMap fun step =>
    (settings.componentOrder step).map fun kind => ⟨step, kind⟩

/-- A target with the transitions it goes through. -/
structure Entry where
  target : Target
  steps : List Transition

namespace Stage

def includes (stage : Stage) (entry : Entry) : Bool :=
  entry.steps.contains stage.step && entry.target.kind == stage.kind

def targets (stage : Stage) (entries : List Entry) (failed : List String) : List Target :=
  ((entries.filter stage.includes).map (·.target)).filter fun target =>
    !failed.contains target.xname

def course (simulation : Bool) (entries : List Entry) (stage : Stage)
    (progress : Progress) : Course Progress :=
  let targets := stage.targets entries progress.failed
  Course.through (fun names progress =>
      round simulation stage.step
        (targets.filter fun target => names.contains target.xname) progress)
    (Coupling.rounds (targets.map (·.xname))) progress

end Stage

/-! ## Campaigns -/

def entriesOf (settings : Settings) (transition : Transition) (roster : Roster) :
    List Entry :=
  roster.targets.map fun target => ⟨target, (admission settings transition target).steps⟩

/-- The report before anything is sent: outcomes of missing boards and of targets
that are refused or spared. -/
def opening (settings : Settings) (transition : Transition) (roster : Roster) : Report :=
  let report := roster.missing.foldl (fun report xname => report.fail (missingOutcome xname)) {}
  roster.targets.foldl (fun report target =>
    let admission := Campaign.admission settings transition target
    let report :=
      if admission.isCounted then { report with total := report.total + 1 } else report
    match admission.outcome? transition target with
    | none => report
    | some outcome => if outcome.isOk then report.note outcome else report.fail outcome) report

def refusedText (transition : Transition) (failures : Nat) : String :=
  "Errors encountered with " ++ toString failures ++ " components for " ++ transition.name

def failedText (transition : Transition) (failures total : Nat) : String :=
  "Errors encountered with " ++ toString failures ++ "/" ++ toString total ++
    " Xnames issued " ++ transition.name

def conclude (transition : Transition) (report : Report) : Report :=
  if 0 < report.failures then
    { report with error := some (failedText transition report.failures report.total) }
  else report

def ofRoster (settings : Settings) (simulation : Bool) (transition : Transition)
    (roster : Roster) : Course Report :=
  let report := opening settings transition roster
  if 0 < report.failures then
    .done { report with error := some (refusedText transition report.failures) }
  else
    (Course.through (Stage.course simulation (entriesOf settings transition roster))
      (stages settings) { report }).bind fun progress =>
        .done (conclude transition progress.report)

def course (settings : Settings) (simulation : Bool) (inventory : Option Inventory)
    (transition : Transition) (targets : List Target) : Course Report :=
  ofRoster settings simulation transition (.ofRequest inventory transition targets)

/-! ## Carrying out a course -/

def awaitAll (gateway : Gateway) : List Target → Conversation (List Outcome)
  | [] => .done []
  | target :: rest =>
    let options := gateway.settings.options
    (gateway.awaitOff target options.offPause options.offRetries).bind fun outcome =>
      (awaitAll gateway rest).bind fun outcomes => .done (outcome :: outcomes)

def Course.carryOut {Result : Type} (gateway : Gateway) (pool : Pool) :
    Course Result → Conversation Result
  | .done result => .done result
  | .change step targets next =>
    (FanOut.run gateway pool (FanOut.callsOf (.change step) targets)).bind fun outcomes =>
      carryOut gateway pool (next outcomes)
  | .awaitOff targets next =>
    (awaitAll gateway targets).bind fun outcomes => carryOut gateway pool (next outcomes)

def run (gateway : Gateway) (pool : Pool) (inventory : Option Inventory)
    (transition : Transition) (targets : List Target) : Conversation Report :=
  (course gateway.settings gateway.simulation inventory transition targets).carryOut
    gateway pool

end ClusterPower.Campaign
