import ClusterPower.Bmc.Gateway
import ClusterPower.Pool.Settle

/-!
Fanning one request out over many targets and collecting the outcomes. Each
target gets a job of its own; the number of jobs that the pool takes is the
number of outcomes to wait for.
-/

namespace ClusterPower.FanOut

/-! ## Jobs -/

def numbered (calls : List (Target × Command)) : List Job :=
  calls.mapIdx fun number (target, command) => { number, command, target }

def callsOf (command : Command) (targets : List Target) : List (Target × Command) :=
  targets.map fun target => (target, command)

/-- For every target the command under its name. A target without one is left
out. -/
def callsByName (commands : Table Command) (targets : List Target) :
    List (Target × Command) :=
  targets.filterMap fun target =>
    (commands.get? target.xname).map fun command => (target, command)

/-! ## Dispatch -/

/-- What came of submitting jobs: how many the pool takes, and the reports so
far. -/
structure Dispatched where
  pool : Pool
  count : Nat := 0
  reports : List JobReport := []
deriving Inhabited

def submitJob (dispatched : Dispatched) (job : Job) : Dispatched :=
  match dispatched.pool.submit job with
  | (.refused report, pool) =>
    { dispatched with pool, reports := dispatched.reports ++ [report] }
  | (_, pool) => { dispatched with pool, count := dispatched.count + 1 }

def submitAll (pool : Pool) (jobs : List Job) : Dispatched :=
  jobs.foldl submitJob { pool }

def dispatch (gateway : Gateway) (pool : Pool) (calls : List (Target × Command)) :
    Conversation Dispatched :=
  let dispatched := submitAll pool (numbered calls)
  let call (job : Job) := gateway.call job.command job.target
  (dispatched.pool.settle call).bind fun settled =>
    .done { dispatched with
      pool := settled.pool, reports := dispatched.reports ++ settled.reports }

def collect (count : Nat) (reports : List JobReport) : List Outcome :=
  (reports.take count).map (·.outcome)

def run (gateway : Gateway) (pool : Pool) (calls : List (Target × Command)) :
    Conversation (List Outcome) :=
  (dispatch gateway pool calls).bind fun dispatched =>
    .done (collect dispatched.count dispatched.reports)

end ClusterPower.FanOut
