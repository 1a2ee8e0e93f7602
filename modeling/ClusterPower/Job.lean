import ClusterPower.Command
import ClusterPower.Outcome

/-!
Jobs: one command for one target, with its status on the way through a worker
pool. A job that is given up before it has reported an outcome reports a failure
in its place, `Job.abandoned`.
-/

namespace ClusterPower

inductive JobStatus where
  | fresh
  | queued
  | inProgress
  | complete
  | cancelled
  | failed
deriving DecidableEq, Repr, Inhabited

namespace JobStatus

def all : List JobStatus := [.fresh, .queued, .inProgress, .complete, .cancelled, .failed]

def name : JobStatus → String
  | .fresh => "default"
  | .queued => "queued"
  | .inProgress => "in-progress"
  | .complete => "complete"
  | .cancelled => "cancelled"
  | .failed => "error"

def named? (text : String) : Option JobStatus :=
  all.find? fun status => status.name == text

def isPending : JobStatus → Bool
  | .fresh | .queued => true
  | _ => false

end JobStatus

structure JobState where
  status : JobStatus := .fresh
  error : Option String := none
deriving DecidableEq, Repr, Inhabited

namespace JobState

def cancel (state : JobState) : JobState :=
  if state.status.isPending then ⟨.cancelled, none⟩ else state

/-- A fresh job becomes a queued one. A cancelled job keeps its status, so that
workers can tell. -/
def enqueue (state : JobState) : JobState :=
  if state.status = .fresh then ⟨.queued, none⟩ else state

end JobState

structure Job where
  number : Nat
  command : Command
  target : Target
  state : JobState := {}
deriving Inhabited

namespace Job

def kindName : String := "BmcPower"

def cancel (job : Job) : Job :=
  { job with state := job.state.cancel }

def enqueue (job : Job) : Job :=
  { job with state := job.state.enqueue }

def abandoned (job : Job) : Outcome :=
  .failed job.target
    (if job.state.status = .cancelled then "job cancelled" else "worker pool stopped")

end Job

structure JobReport where
  job : Job
  outcome : Outcome
deriving Inhabited

namespace Job

def giveUp (job : Job) : JobReport :=
  ⟨job, job.abandoned⟩

end Job

end ClusterPower
