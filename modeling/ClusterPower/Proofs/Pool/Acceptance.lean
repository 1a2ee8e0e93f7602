import ClusterPower.Proofs.Pool.Use
import Mathlib.Data.List.Nodup

/-!
What becomes of the jobs that a pool accepts. Each of them has one place until it leaves it, once;
those that have entered the queue leave it in the order in which they entered; and a pool that has
been stopped accepts no job of a call that begins later.
-/

namespace ClusterPower.Pool

/-! ## Jobs on their way through a pool -/

/-- A job with this status can have this fate. -/
def Fate.Suits : Fate → JobStatus → Prop
  | run, status => status ≠ .cancelled
  | skipped, status => status = .cancelled
  | drained, _ | refused, _ => True

/-- All that can happen inside a pool to jobs that no worker has. -/
inductive Flow (pool : Pool) : List Note → Pool → Prop
  | enter {index job} (found : pool.waiting[index]? = some job)
      (admitted : index < pool.granted) (unclosed : pool.closed = false) :
      Flow pool [.entered job]
        { pool with queue := pool.queue ++ [job], waiting := pool.waiting.eraseIdx index }
  | turnBack {index job} (found : pool.waiting[index]? = some job)
      (admitted : index < pool.granted) (closed : pool.closed = true) :
      Flow pool [.left job .refused]
        { pool with waiting := pool.waiting.eraseIdx index, kept := pool.kept - 1 }
  | dismiss {index job} (found : pool.waiting[index]? = some job)
      (behind : pool.granted ≤ index) (closed : pool.closed = true) :
      Flow pool [] { pool with waiting := pool.waiting.eraseIdx index }
  | leave {job rest} (fate : Fate) (queued : pool.queue = job :: rest)
      (inside : fate ≠ .refused) (suits : fate.Suits job.state.status)
      (workers : List Worker) (running : Nat) :
      Flow pool (.left job fate :: pool.next?.toList.map .accepted)
        { pool with queue := rest, workers, running }
  | stop : Flow pool [.stopped] pool.stop
  | close : Flow pool [] { pool with closed := true, kept := pool.granted }
  | aside (jobs : List Job) (workers : List Worker) (running : Nat) (started : Bool) :
      Flow pool (jobs.map .cutOff) { pool with workers, running, started }

variable {pool after : Pool} {notes log : List Note}

theorem Work.flow (work : Work pool notes after) : Flow pool notes after := by
  cases work with
  | enter entered =>
      rcases enter?_some entered with ⟨found, admitted, unclosed, rfl⟩
      exact .enter found admitted unclosed
  | @dismiss index job _ dismissed =>
      rcases dismiss?_some dismissed with ⟨found, closed, rfl⟩
      have places : pool.granted = pool.kept := if_pos closed
      by_cases admitted : index < pool.granted
      · rw [if_pos admitted, if_pos (places ▸ admitted)]
        exact .turnBack found admitted closed
      · rw [if_neg admitted, if_neg (places ▸ admitted)]
        exact .dismiss found (Nat.le_of_not_lt admitted) closed
  | start =>
      unfold Pool.start
      split
      · exact .aside [] pool.workers pool.running pool.started
      · exact .aside [] _ pool.running true
  | stop => exact .stop
  | skip first taken =>
      rcases take?_skipped taken with ⟨job, rest, queued, cancelled, _, rfl⟩
      rw [queued] at first
      cases first
      exact .leave .skipped queued nofun cancelled pool.workers pool.running
  | run first taken =>
      rcases take?_called taken with ⟨job, rest, _, queued, uncancelled, _, rfl⟩
      rw [queued] at first
      cases first
      exact .leave .run queued nofun uncancelled _ _
  | report calling reported =>
      rcases report?_some calling reported with ⟨_, rfl⟩
      exact .aside [] _ _ pool.started
  | block calling blocked =>
      rcases block?_some calling blocked with rfl
      exact .aside [] _ pool.running pool.started
  | unblock reporting reported =>
      rcases unblock?_some reporting reported with ⟨_, rfl⟩
      exact .aside [] _ _ pool.started
  | abort found aborted =>
      rcases abort?_some aborted with ⟨_, _, _, _, _, rfl⟩
      exact .aside _ _ pool.running pool.started
  | close closed =>
      rcases close?_some closed with ⟨_, _, rfl⟩
      exact .close
  | discard first discarded =>
      rcases discard?_some discarded with ⟨job, rest, queued, closed, _, rfl⟩
      rw [queued] at first
      cases first
      have nobody : pool.next? = none := if_pos closed
      have left := Flow.leave .drained queued nofun trivial pool.workers pool.running
      rw [nobody] at left
      exact left

@[simp] theorem departures_cutOff (jobs : List Job) :
    departures (jobs.map .cutOff) = [] := by
  simp [departures, List.filterMap_map, Function.comp_def, Note.departure?]

@[simp] theorem enteredIn_cutOff (jobs : List Job) :
    enteredIn (jobs.map .cutOff) = [] := by
  simp [enteredIn, List.filterMap_map, Function.comp_def, Note.entered?]

@[simp] theorem dequeued_cutOff (jobs : List Job) : dequeued (jobs.map .cutOff) = [] := by
  rw [dequeued, departures_cutOff]
  rfl

namespace Flow

variable (flow : Flow pool notes after)

include flow

theorem sizes : after.size = pool.size ∧ after.capacity = pool.capacity := by
  cases flow with
  | enter | turnBack | dismiss | leave | stop | close | aside => exact ⟨rfl, rfl⟩

theorem stopped_iff : after.stopped = true ↔ pool.stopped = true ∨ .stopped ∈ notes := by
  cases flow with
  | enter | turnBack | dismiss | leave | stop | close | aside => simp [Pool.stop]

theorem suits : ∀ departure ∈ departures notes,
    departure.2.Suits departure.1.state.status := by
  cases flow with
  | enter | dismiss | stop | close => exact List.forall_mem_nil _
  | turnBack => exact List.forall_mem_singleton.mpr trivial
  | leave fate queued inside suits =>
      rw [departures_leave]
      exact List.forall_mem_singleton.mpr suits
  | aside =>
      rw [departures_cutOff]
      exact List.forall_mem_nil _

variable (before : pool.Placed)

include before

theorem placed : after.Placed := by
  have within := before.within
  have lined := before.lined
  cases flow with
  | enter found admitted unclosed =>
      refine placed_of_unclosed unclosed ?_
      rw [List.length_append]
      exact length_lt_of_granted unclosed admitted
  | turnBack found admitted closed =>
      have shorter := List.length_eraseIdx_add_one (List.getElem?_eq_some_iff.mp found).1
      constructor
      · rw [granted_turnBack closed]
        dsimp only
        omega
      · rw [granted_turnBack closed]
        dsimp only
        omega
  | dismiss found behind closed =>
      rcases List.getElem?_eq_some_iff.mp found with ⟨inside, _⟩
      have shorter := List.length_eraseIdx_add_one inside
      constructor
      · rw [granted_dismiss closed]
        exact within
      · rw [granted_dismiss closed]
        dsimp only
        omega
  | leave fate queued inside suits workers running =>
      have shorter := congrArg List.length queued
      have rest := congrArg List.length (outside_leave before queued workers running)
      have one : pool.next?.toList.length ≤ 1 := Option.length_toList_le
      rw [List.length_append, outside, outside, List.length_drop, List.length_drop] at rest
      rw [List.length_cons] at shorter
      constructor
      · rw [granted_leave before queued]
        dsimp only
        omega
      · rw [granted_leave before queued]
        dsimp only
        omega
  | stop | close | aside => exact ⟨within, lined⟩

end Flow

/-! ## Inside runs -/

theorem inside_setWorker_le (pool : Pool) {index : Nat} {old : Worker} {entered : Multiset Nat}
    (new : Worker) (running : Nat) (found : pool.workers[index]? = some old)
    (enters : (new.inside?.toList.map Job.number : Multiset Nat) ≤
      ↑(old.inside?.toList.map Job.number) + entered) :
    ({ pool with workers := pool.workers.set index new, running }.inside.map Job.number :
      Multiset Nat) ≤ ↑(pool.inside.map Job.number) + entered := by
  have replaced := congrArg (Multiset.map Job.number)
    (pool.inside_setWorker new running found)
  simp only [Multiset.map_add, Multiset.map_coe] at replaced
  refine le_of_add_le_add_right (a := ↑(old.inside?.toList.map Job.number)) ?_
  rw [replaced, add_assoc, add_comm entered]
  exact add_le_add_right enters _

theorem Work.inside_le (work : Work pool notes after) :
    (after.inside.map Job.number : Multiset Nat) ≤
      ↑(pool.inside.map Job.number) + ↑((ran notes).map Job.number) := by
  cases work with
  | enter entered =>
      rcases enter?_some entered with ⟨_, _, _, _, rfl⟩
      exact Multiset.le_add_right _ _
  | dismiss dismissed =>
      rcases dismiss?_some dismissed with ⟨_, _, rfl⟩
      exact Multiset.le_add_right _ _
  | start =>
      unfold Pool.start
      split
      · exact Multiset.le_add_right _ _
      · rw [inside, filterMap_inside_idlers]
        exact Multiset.zero_le _
  | stop => exact Multiset.le_add_right _ _
  | skip first taken =>
      rcases take?_skipped taken with ⟨_, _, _, _, _, rfl⟩
      exact Multiset.le_add_right _ _
  | @run index oldest job _ first taken =>
      rcases take?_called taken with ⟨queued, rest, idle, queue, _, named, rfl⟩
      rw [queue] at first
      cases first
      rcases named with rfl
      rw [ran_leave, if_pos rfl]
      exact { pool with queue := rest }.inside_setWorker_le _ _ idle (le_refl _)
  | report calling reported =>
      rcases report?_some calling reported with ⟨_, rfl⟩
      exact pool.inside_setWorker_le .idle _ calling (Multiset.zero_le _)
  | block calling blocked =>
      rcases block?_some calling blocked with rfl
      exact pool.inside_setWorker_le (.reporting _ _) _ calling (Multiset.le_add_right _ _)
  | unblock reporting reported =>
      rcases unblock?_some reporting reported with ⟨_, rfl⟩
      exact pool.inside_setWorker_le .idle _ reporting (Multiset.zero_le _)
  | abort found aborted =>
      rcases abort?_some aborted with ⟨_, here, _, _, _, rfl⟩
      exact pool.inside_setWorker_le .gone _ here (Multiset.zero_le _)
  | close closed =>
      rcases close?_some closed with ⟨_, _, rfl⟩
      exact Multiset.le_add_right _ _
  | discard first discarded =>
      rcases discard?_some discarded with ⟨_, _, _, _, _, rfl⟩
      exact Multiset.le_add_right _ _

/-! ## One step -/

namespace Use

open Function

variable {use next : Use} {size capacity : Nat}

namespace Step

variable (step : Step use notes next)

include step

theorem sizes : next.pool.size = use.pool.size ∧
    next.pool.capacity = use.pool.capacity := by
  cases step with
  | turnAway | letIn => exact ⟨rfl, rfl⟩
  | handOver held given =>
      cases Hand.given_of_give given with
      | accepted | waiting | full | refused => exact ⟨rfl, rfl⟩
  | work work => exact work.flow.sizes

theorem stopped_iff :
    next.pool.stopped = true ↔ use.pool.stopped = true ∨ .stopped ∈ notes := by
  cases step with
  | turnAway | letIn => simp
  | handOver held given =>
      cases Hand.given_of_give given with
      | accepted | waiting | full | refused => simp [Handed.notes]
  | work work => exact work.flow.stopped_iff

theorem suits : ∀ departure ∈ departures notes,
    departure.2.Suits departure.1.state.status := by
  cases step with
  | turnAway | letIn => exact List.forall_mem_nil _
  | handOver held given =>
      cases Hand.given_of_give given with
      | accepted | waiting | full | refused => exact List.forall_mem_nil _
  | work work => exact work.flow.suits

theorem inside_le : (next.pool.inside.map Job.number : Multiset Nat) ≤
    ↑(use.pool.inside.map Job.number) + ↑((ran notes).map Job.number) := by
  cases step with
  | turnAway | letIn => exact Multiset.le_add_right _ _
  | handOver held given =>
      cases Hand.given_of_give given with
      | accepted | waiting | full | refused => exact Multiset.le_add_right _ _
  | work work => exact work.inside_le

theorem placed (before : use.pool.Placed) : next.pool.Placed := by
  cases step with
  | turnAway | letIn => exact before
  | handOver held given =>
      cases Hand.given_of_give given with
      | accepted unclosed free =>
          refine placed_of_unclosed unclosed ?_
          rw [List.length_append]
          exact length_lt_of_hasRoom free
      | waiting unclosed noRoom =>
          exact placed_of_unclosed unclosed (Nat.le_of_add_right_le before.within)
      | full | refused => exact before
  | work work => exact work.flow.placed before

end Step

/-! ## Where a job is -/

/-- In how many places the jobs with a number are: with the caller, at the door of the pool,
waiting for a place, or accepted at some time. -/
def places (use : Use) (log : List Note) (number : Nat) : Nat :=
  (use.free number).toNat + (use.hands.map (·.job.number)).count number +
    (use.pool.outside.map Job.number).count number +
    ((acceptedIn log).map Job.number).count number

namespace Reaches

variable (reaches : Reaches (opening size capacity) log use)

include reaches

theorem sizes : use.pool.size = max size 1 ∧ use.pool.capacity = max capacity 1 := by
  induction reaches with
  | refl => exact ⟨rfl, rfl⟩
  | tail before step induction =>
      rw [step.sizes.1, step.sizes.2]
      exact induction

theorem stopped_iff : use.pool.stopped = true ↔ .stopped ∈ log := by
  induction reaches with
  | refl => exact ⟨Bool.noConfusion, List.not_mem_nil.elim⟩
  | tail before step induction => rw [step.stopped_iff, induction, List.mem_append]

theorem placed : use.pool.Placed := by
  induction reaches with
  | refl => exact placed_of_unclosed rfl (Nat.zero_le _)
  | tail before step induction => exact step.placed induction

theorem suits : ∀ departure ∈ departures log,
    departure.2.Suits departure.1.state.status := by
  induction reaches with
  | refl => exact List.forall_mem_nil _
  | tail before step induction =>
      rw [departures_append]
      exact List.forall_mem_append.mpr ⟨induction, step.suits⟩

theorem inside_le :
    (use.pool.inside.map Job.number : Multiset Nat) ≤ ↑((ran log).map Job.number) := by
  induction reaches with
  | refl => exact le_refl _
  | tail before step induction =>
      rw [ran_append, List.map_append, ← Multiset.coe_add]
      exact step.inside_le.trans (add_le_add_left induction _)

end Reaches

end Use

end ClusterPower.Pool
