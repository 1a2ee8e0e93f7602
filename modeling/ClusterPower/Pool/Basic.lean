import ClusterPower.Job

/-!
A pool of workers that share one bounded queue of jobs. Every change of a pool is
one small operation, so that all their interleavings can be considered; none of
them decides what comes next. Submissions that find no room wait outside the
queue until they are granted a place.
-/

namespace ClusterPower

inductive Worker where
  | idle
  /-- The call of a job is under way. -/
  | calling (job : Job)
  /-- The call has ended and its outcome waits for room among the reports. -/
  | reporting (job : Job) (outcome : Outcome)
  | gone
deriving Inhabited

structure Pool where
  /-- The number of workers that are started. -/
  size : Nat
  /-- The number of jobs that the queue holds at most. -/
  capacity : Nat
  /-- The workers that have been started. -/
  workers : List Worker := []
  /-- Jobs accepted, the oldest first. -/
  queue : List Job := []
  /-- Submissions that wait for room, the oldest first. -/
  waiting : List Job := []
  /-- The count of running jobs, raised and lowered by the workers. -/
  running : Nat := 0
  started : Bool := false
  stopped : Bool := false
  /-- The queue takes no job any more. -/
  closed : Bool := false
  /-- The places that waiting submissions had when the queue was closed and have not given
  back. -/
  kept : Nat := 0
deriving Inhabited

namespace Pool

/-- A pool that has not been started. It has at least one worker, and room for
at least one job. -/
def create (size capacity : Nat) : Pool where
  size := max size 1
  capacity := max capacity 1

def isRunning (pool : Pool) : Bool :=
  pool.started && !pool.stopped

/-! ## Places

A place that becomes free goes to the oldest waiting submission that has none. It enters the
queue later, by a step of its own.
-/

def granted (pool : Pool) : Nat :=
  if pool.closed then pool.kept
  else min pool.waiting.length (pool.capacity - pool.queue.length)

def room (pool : Pool) : Nat :=
  pool.capacity - (pool.queue.length + pool.granted)

def hasRoom (pool : Pool) : Bool :=
  0 < pool.room

def queued (pool : Pool) : Nat :=
  pool.capacity - pool.room

/-! ## Accepting jobs -/

/-- Answers to a job that is offered. -/
inductive Offer where
  | accepted
  /-- There is no room; the job goes back. -/
  | full (job : Job)
  /-- The pool has been stopped; the job is given up. -/
  | refused (report : JobReport)
deriving Inhabited

/-- Offer a job without waiting. A job that goes back has the status it had, but
no reason of a failure. -/
def offer (pool : Pool) (job : Job) : Offer × Pool :=
  if pool.stopped then (.refused job.giveUp, pool)
  else if pool.closed then (.refused job.enqueue.giveUp, pool)
  else if pool.hasRoom then
    (.accepted, { pool with queue := pool.queue ++ [job.enqueue] })
  else (.full { job with state := ⟨job.state.status, none⟩ }, pool)

/-- Answers to a job that is submitted. -/
inductive Submission where
  | accepted
  | waiting
  | refused (report : JobReport)
deriving Inhabited

def submit (pool : Pool) (job : Job) : Submission × Pool :=
  if pool.stopped then (.refused job.giveUp, pool)
  else if pool.closed then (.refused job.enqueue.giveUp, pool)
  else if pool.hasRoom then
    (.accepted, { pool with queue := pool.queue ++ [job.enqueue] })
  else (.waiting, { pool with waiting := pool.waiting ++ [job.enqueue] })

def enter? (pool : Pool) (index : Nat) : Option (Job × Pool) :=
  match pool.waiting[index]? with
  | some job =>
    if index < pool.granted && !pool.closed then
      some (job, { pool with
        queue := pool.queue ++ [job]
        waiting := pool.waiting.eraseIdx index })
    else none
  | none => none

/-! ## Workers -/

def start (pool : Pool) : Pool :=
  if pool.started then pool
  else { pool with started := true, workers := List.replicate pool.size .idle }

/-- What becomes of a job that is taken from the queue. -/
inductive Taken where
  | skipped (report : JobReport)
  | called (job : Job)
deriving Inhabited

def take? (pool : Pool) (index : Nat) : Option (Taken × Pool) :=
  match pool.workers[index]?, pool.queue with
  | some .idle, job :: rest =>
    let pool := { pool with queue := rest }
    if job.state.status = .cancelled then some (.skipped job.giveUp, pool)
    else
      let job := { job with state := ⟨.inProgress, none⟩ }
      some (.called job, { pool with
        workers := pool.workers.set index (.calling job)
        running := pool.running + 1 })
  | _, _ => none

def report? (pool : Pool) (index : Nat) (outcome : Outcome) : Option (JobReport × Pool) :=
  match pool.workers[index]? with
  | some (.calling job) =>
    some (⟨job, outcome⟩, { pool with
      workers := pool.workers.set index .idle
      running := pool.running - 1 })
  | _ => none

def block? (pool : Pool) (index : Nat) (outcome : Outcome) : Option Pool :=
  match pool.workers[index]? with
  | some (.calling job) =>
    some { pool with workers := pool.workers.set index (.reporting job outcome) }
  | _ => none

def unblock? (pool : Pool) (index : Nat) : Option (JobReport × Pool) :=
  match pool.workers[index]? with
  | some (.reporting job outcome) =>
    some (⟨job, outcome⟩, { pool with
      workers := pool.workers.set index .idle
      running := pool.running - 1 })
  | _ => none

/-! ## Stopping -/

/-- Stop the pool: no job is accepted any more. What is queued or under way is
given up by `abort?` and `drain?`. -/
def stop (pool : Pool) : Pool :=
  { pool with stopped := true }

/-- The report of a worker that is aborted. A job whose outcome waits for room
counts as reported. -/
def Worker.abandoned : Worker → List JobReport
  | .calling job => [job.giveUp]
  | _ => []

def Worker.isGone : Worker → Bool
  | .gone => true
  | _ => false

def abort? (pool : Pool) (index : Nat) : Option (List JobReport × Pool) :=
  match pool.workers[index]? with
  | some .gone => none
  | some worker =>
    if pool.stopped then
      some (Worker.abandoned worker, { pool with workers := pool.workers.set index .gone })
    else none
  | none => none

/-- Close the queue of a stopped pool and give up every job in it and every
submission that waits. -/
def drain? (pool : Pool) : Option (List JobReport × Pool) :=
  if pool.stopped && !pool.closed then
    some ((pool.queue ++ pool.waiting).map Job.giveUp,
      { pool with queue := [], waiting := [], closed := true, kept := 0 })
  else none

end Pool

end ClusterPower
