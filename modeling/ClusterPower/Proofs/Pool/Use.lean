import ClusterPower.Proofs.Pool.Places
import ClusterPower.Proofs.Pool.Turn
import Mathlib.Logic.Function.Basic

/-!
Pools in use. Callers offer and submit jobs, workers take and run them, and the pool is
started and stopped at any time; all of them act in any order, one small step after the
other. What can be noticed of the steps is kept in a log, so that a statement about all
reachable states with their logs is one about all interleavings.
-/

namespace ClusterPower

/-- The job that a worker is inside the run of. A run lasts until its outcome has found
room. -/
def Worker.inside? : Worker → Option Job
  | .calling job => some job
  | .reporting job _ => some job
  | .idle | .gone => none

namespace Pool

/-! ## Inside runs -/

def inside (pool : Pool) : List Job := pool.workers.filterMap Worker.inside?

theorem coe_inside (pool : Pool) :
    (pool.inside : Multiset Job) =
      (pool.workers.map fun worker => (worker.inside?.toList : Multiset Job)).sum := by
  unfold inside
  induction pool.workers with
  | nil => rfl
  | cons first rest induction =>
      rw [List.map_cons, List.sum_cons, ← induction, Multiset.coe_add]
      cases busy : first.inside? with
      | none => rw [List.filterMap_cons_none busy]; rfl
      | some job => rw [List.filterMap_cons_some busy]; rfl

theorem inside_setWorker (pool : Pool) {index : Nat} {old : Worker} (new : Worker)
    (running : Nat) (found : pool.workers[index]? = some old) :
    ({ pool with workers := pool.workers.set index new, running }.inside : Multiset Job) +
        old.inside?.toList =
      pool.inside + new.inside?.toList := by
  rw [coe_inside, coe_inside]
  exact sum_map_set _ new found

theorem filterMap_inside_idlers (size : Nat) :
    (List.replicate size Worker.idle).filterMap Worker.inside? = [] := by
  simp [List.filterMap_replicate, Worker.inside?]

/-! ## Handing over -/

def place (pool : Pool) (job : Job) : Offer × Pool :=
  if pool.closed then (.refused job.enqueue.giveUp, pool)
  else if pool.hasRoom then
    (.accepted, { pool with queue := pool.queue ++ [job.enqueue] })
  else (.full { job with state := ⟨job.state.status, none⟩ }, pool)

theorem offer_eq_place (pool : Pool) (job : Job) :
    pool.offer job =
      if pool.stopped then (.refused job.giveUp, pool) else pool.place job := rfl

/-- A call that has found the pool going and is about to hand over its job. -/
structure Hand where
  job : Job
  waits : Bool

/-- What comes of handing over a job. -/
inductive Handed where
  | accepted
  | waiting
  | full
  | refused

namespace Hand

def give (hand : Hand) (pool : Pool) : Handed × Pool :=
  if hand.waits then
    match pool.send hand.job.enqueue with
    | (.accepted, after) => (.accepted, after)
    | (.waiting, after) => (.waiting, after)
    | (.refused _, after) => (.refused, after)
  else
    match pool.place hand.job with
    | (.accepted, after) => (.accepted, after)
    | (.full _, after) => (.full, after)
    | (.refused _, after) => (.refused, after)

/-- All that handing over a job can do. -/
inductive Given (hand : Hand) (pool : Pool) : Handed → Pool → Prop
  | accepted (unclosed : pool.closed = false) (free : pool.hasRoom = true) :
      Given hand pool .accepted { pool with queue := pool.queue ++ [hand.job.enqueue] }
  | waiting (unclosed : pool.closed = false) (noRoom : pool.hasRoom = false) :
      Given hand pool .waiting { pool with waiting := pool.waiting ++ [hand.job.enqueue] }
  | full : Given hand pool .full pool
  | refused : Given hand pool .refused pool

theorem given_of_give {hand : Hand} {pool after : Pool} {handed : Handed}
    (given : hand.give pool = (handed, after)) : hand.Given pool handed after := by
  unfold give at given
  split at given
  · cases sent : pool.send hand.job.enqueue with
    | mk submission next =>
        rw [sent] at given
        cases submission with
        | accepted =>
            cases given
            rcases send_accepted sent with ⟨unclosed, free, rfl⟩
            exact .accepted unclosed free
        | waiting =>
            cases given
            rcases send_waiting sent with ⟨unclosed, noRoom, rfl⟩
            exact .waiting unclosed noRoom
        | refused report =>
            cases given
            rcases send_refused sent with ⟨_, _, rfl⟩
            exact .refused
  · unfold place at given
    split_ifs at given with closed free
    · cases given
      exact .refused
    · cases given
      exact .accepted (by simpa using closed) free
    · cases given
      exact .full

end Hand

/-! ## What can be noticed -/

/-- What becomes of an accepted job. -/
inductive Fate where
  | run
  | skipped
  | drained
  | refused
deriving DecidableEq

inductive Note where
  | begun (job : Job)
  | accepted (job : Job)
  | entered (job : Job)
  | left (job : Job) (fate : Fate)
  | stopped
  | cutOff (job : Job)

namespace Note

def accepted? : Note → Option Job
  | accepted job => some job
  | _ => none

def entered? : Note → Option Job
  | entered job => some job
  | _ => none

def departure? : Note → Option (Job × Fate)
  | left job fate => some (job, fate)
  | _ => none

def cutOff? : Note → Option Job
  | cutOff job => some job
  | _ => none

end Note

def acceptedIn (log : List Note) : List Job := log.filterMap Note.accepted?

def enteredIn (log : List Note) : List Job := log.filterMap Note.entered?

def departures (log : List Note) : List (Job × Fate) := log.filterMap Note.departure?

def dequeued (log : List Note) : List Job :=
  ((departures log).filter fun departure => departure.2 ≠ .refused).map Prod.fst

def ran (log : List Note) : List Job :=
  ((departures log).filter fun departure => departure.2 = .run).map Prod.fst

def cutOffs (log : List Note) : List Job := log.filterMap Note.cutOff?

@[simp] theorem departures_append (log notes : List Note) :
    departures (log ++ notes) = departures log ++ departures notes :=
  List.filterMap_append

@[simp] theorem ran_append (log notes : List Note) :
    ran (log ++ notes) = ran log ++ ran notes := by
  rw [ran, departures_append, List.filter_append, List.map_append]
  rfl

@[simp] theorem cutOffs_append (log notes : List Note) :
    cutOffs (log ++ notes) = cutOffs log ++ cutOffs notes :=
  List.filterMap_append

/-! ## Notes on a job that leaves -/

@[simp] theorem departures_leave (job : Job) (fate : Fate) (next : List Job) :
    departures (.left job fate :: next.map .accepted) = [(job, fate)] := by
  simp [departures, List.filterMap_map, Function.comp_def, Note.departure?]

@[simp] theorem ran_leave (job : Job) (fate : Fate) (next : List Job) :
    ran (.left job fate :: next.map .accepted) = if fate = .run then [job] else [] := by
  rw [ran, departures_leave]
  split <;> simp_all

@[simp] theorem cutOffs_leave (job : Job) (fate : Fate) (next : List Job) :
    cutOffs (.left job fate :: next.map .accepted) = [] := by
  simp [cutOffs, Note.cutOff?]

@[simp] theorem cutOffs_dismiss (job : Job) (holds : Prop) [Decidable holds] :
    cutOffs (if holds then [.left job .refused] else []) = [] := by
  split <;> rfl

/-! ## Steps -/

open Function

/-- What happens inside a pool, with what can be noticed of it. -/
inductive Work (pool : Pool) : List Note → Pool → Prop
  | enter {index job after} (entered : pool.enter? index = some (job, after)) :
      Work pool [.entered job] after
  | dismiss {index job after} (dismissed : pool.dismiss? index = some (job, after)) :
      Work pool (if index < pool.granted then [.left job .refused] else []) after
  | start : Work pool [] pool.start
  | stop : Work pool [.stopped] pool.stop
  | skip {index oldest report after} (first : pool.queue.head? = some oldest)
      (taken : pool.take? index = some (.skipped report, after)) :
      Work pool (.left oldest .skipped :: pool.next?.toList.map .accepted) after
  | run {index oldest job after} (first : pool.queue.head? = some oldest)
      (taken : pool.take? index = some (.called job, after)) :
      Work pool (.left oldest .run :: pool.next?.toList.map .accepted) after
  | report {index job outcome report after}
      (calling : pool.workers[index]? = some (.calling job))
      (reported : pool.report? index outcome = some (report, after)) :
      Work pool [] after
  | block {index job outcome after} (calling : pool.workers[index]? = some (.calling job))
      (blocked : pool.block? index outcome = some after) :
      Work pool [] after
  | unblock {index job outcome report after}
      (reporting : pool.workers[index]? = some (.reporting job outcome))
      (reported : pool.unblock? index = some (report, after)) :
      Work pool [] after
  | abort {index worker reports after} (found : pool.workers[index]? = some worker)
      (aborted : pool.abort? index = some (reports, after)) :
      Work pool (worker.inside?.toList.map .cutOff) after
  | close {after} (closed : pool.close? = some after) : Work pool [] after
  | discard {oldest report after} (first : pool.queue.head? = some oldest)
      (discarded : pool.discard? = some (report, after)) :
      Work pool [.left oldest .drained] after

/-- A pool with the calls that are at its door. -/
structure Use where
  pool : Pool
  hands : List Hand := []
  free : Nat → Bool := fun _ => true

namespace Handed

def notes (job : Job) : Handed → List Note
  | accepted => [.accepted job.enqueue, .entered job.enqueue]
  | waiting | full | refused => []

def free (number : Nat) (free : Nat → Bool) : Handed → Nat → Bool
  | full => update free number true
  | accepted | waiting | refused => free

end Handed

namespace Use

def opening (size capacity : Nat) : Use where
  pool := create size capacity

/-- One step. A job is with its caller or with one call of it; what its caller makes of it
in the meantime is left open. -/
inductive Step (use : Use) : List Note → Use → Prop
  | turnAway {job} (free : use.free job.number = true) (stopped : use.pool.stopped = true) :
      Step use [.begun job] { use with free := update use.free job.number false }
  | letIn {hand} (free : use.free hand.job.number = true)
      (going : use.pool.stopped = false) :
      Step use [.begun hand.job] {
        use with
        hands := use.hands ++ [hand]
        free := update use.free hand.job.number false }
  | handOver {front hand back handed pool} (held : use.hands = front ++ hand :: back)
      (given : hand.give use.pool = (handed, pool)) :
      Step use (handed.notes hand.job) {
        pool
        hands := front ++ back
        free := handed.free hand.job.number use.free }
  | work {notes pool} (work : Work use.pool notes pool) : Step use notes { use with pool }

/-- What is reached by some steps, with all notes of them in order. -/
inductive Reaches (start : Use) : List Note → Use → Prop
  | refl : Reaches start [] start
  | tail {log use notes after} (reaches : Reaches start log use)
      (step : Step use notes after) : Reaches start (log ++ notes) after

end Use

/-! ## Good order -/

variable {pool after : Pool} {notes log : List Note}

theorem sound_enqueue (sound : pool.Sound) (short : pool.queue.length < pool.capacity) (job : Job)
    (waiting : List Job) :
    { pool with queue := pool.queue ++ [job], waiting }.Sound :=
  { sound with
    bounded := by
      rw [List.length_append]
      exact short }

theorem Work.sound (work : Work pool notes after) (sound : pool.Sound) : after.Sound := by
  cases work with
  | enter entered =>
      rcases enter?_some entered with ⟨_, admitted, unclosed, rfl⟩
      exact sound_enqueue sound (length_lt_of_granted unclosed admitted) _ _
  | dismiss dismissed =>
      rcases dismiss?_some dismissed with ⟨_, _, rfl⟩
      exact { sound with }
  | start => exact sound_start sound
  | stop => exact sound_stop sound
  | skip first taken =>
      rcases take?_skipped taken with ⟨job, rest, queued, _, _, rfl⟩
      exact sound_dequeue sound queued
  | run first taken =>
      rcases take?_called taken with ⟨job, rest, _, queued, _, _, rfl⟩
      exact sound_setWorker (sound_dequeue sound queued) _ _ fun _ => rfl
  | report calling reported =>
      rcases report?_some calling reported with ⟨_, rfl⟩
      exact sound_setWorker sound _ _ fun _ => rfl
  | block calling blocked =>
      rcases block?_some calling blocked with rfl
      exact sound_setWorker sound _ _ fun _ => rfl
  | unblock reporting reported =>
      rcases unblock?_some reporting reported with ⟨_, rfl⟩
      exact sound_setWorker sound _ _ fun _ => rfl
  | abort found aborted =>
      rcases abort?_some aborted with ⟨_, _, _, stopped, _, rfl⟩
      exact sound_setWorker sound _ _ fun going => by rw [stopped] at going; cases going
  | close closed =>
      rcases close?_some closed with ⟨stopped, _, rfl⟩
      exact { sound with
        openUntilStopped := fun going => by rw [stopped] at going; cases going }
  | discard first discarded =>
      rcases discard?_some discarded with ⟨job, rest, queued, _, _, rfl⟩
      exact sound_dequeue sound queued

namespace Use

variable {use next : Use} {size capacity : Nat}

theorem Step.sound (step : Step use notes next) (sound : use.pool.Sound) :
    next.pool.Sound := by
  cases step with
  | turnAway | letIn => exact sound
  | handOver held given =>
      cases Hand.given_of_give given with
      | accepted unclosed free => exact sound_enqueue sound (length_lt_of_hasRoom free) _ _
      | waiting => exact { sound with }
      | full | refused => exact sound
  | work work => exact work.sound sound

theorem Reaches.sound (reaches : Reaches (opening size capacity) log use) :
    use.pool.Sound := by
  induction reaches with
  | refl => exact sound_create size capacity
  | tail before step induction => exact step.sound induction

end Use

end Pool

end ClusterPower
