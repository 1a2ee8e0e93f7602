import ClusterPower.Campaign.Course
import ClusterPower.Proofs.Bmc.OwnTarget
import ClusterPower.Proofs.FanOut.Run

/-!
Runs of a course. A run answers every question of the course with one outcome for each
target, any that its BMC may give and in any order, and is logged. So a statement about
all runs is one about every behaviour of the BMCs and every order of the workers.
-/

namespace ClusterPower.Campaign

open Conversation

/-! ## Logs -/

/-- A question that has been answered. -/
inductive Event where
  | changed (step : Transition) (targets : List Target) (outcomes : List Outcome)
  | awaited (targets : List Target) (outcomes : List Outcome)

def fails (xname : String) (outcomes : List Outcome) : Bool :=
  outcomes.any fun outcome => outcome.target.xname == xname && !outcome.isOk

namespace Event

/-- The transitions sent to a target, once for each time that it is among the targets. -/
def commands (xname : String) : Event → List Transition
  | changed step targets _ =>
    (targets.filter fun target => target.xname = xname).map fun _ => step
  | awaited _ _ => []

def changes : Event → List Target
  | changed _ targets _ => targets
  | awaited _ _ => []

end Event

def commands (xname : String) (log : List Event) : List Transition :=
  log.flatMap (Event.commands xname)

/-- Whether a target has failed at a step: in the answers to the change itself, or in
those to a wait that follows it. The last change before the log is given. -/
def failsAt (xname : String) (step : Transition) : Option Transition → List Event → Bool
  | _, [] => false
  | _, .changed current _ outcomes :: rest =>
    current == step && fails xname outcomes || failsAt xname step (some current) rest
  | last, .awaited _ outcomes :: rest =>
    last == some step && fails xname outcomes || failsAt xname step last rest

/-- A log that does not begin in the middle of a round. -/
def IsWhole (log : List Event) : Prop :=
  ∀ targets outcomes rest, log ≠ .awaited targets outcomes :: rest

theorem commands_append (xname : String) (before after : List Event) :
    commands xname (before ++ after) = commands xname before ++ commands xname after :=
  List.flatMap_append

theorem failsAt_of_isWhole {log : List Event} (whole : IsWhole log) (xname : String)
    (step : Transition) (last : Option Transition) :
    failsAt xname step last log = failsAt xname step none log := by
  cases log with
  | nil => rfl
  | cons event rest =>
      cases event with
      | changed current targets outcomes => rfl
      | awaited targets outcomes => exact absurd rfl (whole targets outcomes rest)

theorem failsAt_append (xname : String) (step : Transition) (last : Option Transition)
    (before : List Event) {after : List Event} (whole : IsWhole after) :
    failsAt xname step last (before ++ after) =
      (failsAt xname step last before || failsAt xname step none after) := by
  induction before generalizing last with
  | nil => exact failsAt_of_isWhole whole xname step last
  | cons event rest induction =>
      cases event with
      | changed current targets outcomes =>
          simp only [List.cons_append, failsAt, induction, Bool.or_assoc]
      | awaited targets outcomes =>
          simp only [List.cons_append, failsAt, induction, Bool.or_assoc]

theorem isWhole_append {before after : List Event} (first : IsWhole before)
    (second : IsWhole after) : IsWhole (before ++ after) := by
  cases before with
  | nil => exact second
  | cons event rest =>
      intro targets outcomes later equal
      rw [List.cons_append, List.cons.injEq] at equal
      exact first targets outcomes rest (by rw [equal.1])

/-! ## Runs -/

namespace Course

variable {Result Next Item : Type} {gateway : Gateway}

inductive Runs (gateway : Gateway) : Course Result → List Event → Result → Prop
  | done (result : Result) : Runs gateway (.done result) [] result
  | change {step targets next outcomes log result}
      (answers : Answers (gateway.call (.change step)) targets outcomes)
      (rest : Runs gateway (next outcomes) log result) :
      Runs gateway (.change step targets next) (.changed step targets outcomes :: log) result
  | awaitOff {targets next outcomes log result}
      (answers : Answers (fun target => gateway.awaitOff target
        gateway.settings.options.offPause gateway.settings.options.offRetries) targets outcomes)
      (rest : Runs gateway (next outcomes) log result) :
      Runs gateway (.awaitOff targets next) (.awaited targets outcomes :: log) result

theorem Runs.of_bind {course : Course Result} {following : Result → Course Next}
    {log : List Event} {result : Next} (runs : (course.bind following).Runs gateway log result) :
    ∃ first middle rest, course.Runs gateway first middle ∧
      (following middle).Runs gateway rest result ∧ log = first ++ rest := by
  induction course generalizing log with
  | done middle => exact ⟨[], middle, log, .done middle, runs, rfl⟩
  | change step targets next induction =>
      cases runs with
      | change answers runs =>
          rcases induction _ runs with ⟨first, middle, rest, before, after, rfl⟩
          exact ⟨_, middle, rest, .change answers before, after, rfl⟩
  | awaitOff targets next induction =>
      cases runs with
      | awaitOff answers runs =>
          rcases induction _ runs with ⟨first, middle, rest, before, after, rfl⟩
          exact ⟨_, middle, rest, .awaitOff answers before, after, rfl⟩

theorem Runs.events_through {property : Event → Prop} {body : Item → Result → Course Result}
    (each : ∀ item start log ending, (body item start).Runs gateway log ending →
      ∀ event ∈ log, property event)
    {items : List Item} {start : Result} {log : List Event} {ending : Result}
    (runs : (through body items start).Runs gateway log ending) :
    ∀ event ∈ log, property event := by
  induction items generalizing start log with
  | nil =>
      cases runs
      intro event member
      cases member
  | cons item rest induction =>
      rcases Runs.of_bind runs with ⟨first, middle, later, before, after, rfl⟩
      intro event member
      rcases List.mem_append.mp member with member | member
      · exact each item start first middle before event member
      · exact induction after event member

/-! ## Carrying out -/

theorem awaitAll_ends {targets : List Target} {outcomes : List Outcome}
    (ends : (awaitAll gateway targets).MayEnd outcomes) :
    List.Forall₂ (fun target outcome => (gateway.awaitOff target
      gateway.settings.options.offPause gateway.settings.options.offRetries).MayEnd outcome)
      targets outcomes := by
  induction targets generalizing outcomes with
  | nil =>
      rcases ends with rfl
      exact .nil
  | cons target rest induction =>
      rcases (mayEnd_bind _ _ _).mp ends with ⟨outcome, waited, ends⟩
      rcases (mayEnd_bind _ _ _).mp ends with ⟨others, later, rfl⟩
      exact .cons waited (induction later)

theorem exists_runs_of_carryOut {pool : Pool} (ready : pool.IsReady) (empty : pool.pending = [])
    {course : Course Result} {result : Result}
    (ends : (course.carryOut gateway pool).MayEnd result) :
    ∃ log, course.Runs gateway log result := by
  induction course with
  | done last =>
      rcases ends with rfl
      exact ⟨[], .done _⟩
  | change step targets next induction =>
      rcases (mayEnd_bind _ _ _).mp ends with ⟨outcomes, ran, ends⟩
      rcases induction outcomes ends with ⟨log, runs⟩
      have inOrder := FanOut.run_ends ready empty ran
      rw [FanOut.callsOf, List.forall₂_map_left_iff] at inOrder
      exact ⟨_, .change ⟨outcomes, inOrder, .refl outcomes⟩ runs⟩
  | awaitOff targets next induction =>
      rcases (mayEnd_bind _ _ _).mp ends with ⟨outcomes, waited, ends⟩
      rcases induction outcomes ends with ⟨log, runs⟩
      exact ⟨_, .awaitOff ⟨outcomes, awaitAll_ends waited, .refl outcomes⟩ runs⟩

theorem exists_runs_in_world {State : Type} (gateway : Gateway) {pool : Pool}
    (ready : pool.IsReady) (empty : pool.pending = []) (course : Course Result)
    (world : World State) (state : State) :
    ∃ log, course.Runs gateway log ((course.carryOut gateway pool).run world state).1 :=
  exists_runs_of_carryOut ready empty (mayEnd_run world _ state)

end Course

end ClusterPower.Campaign
