import ClusterPower.FanOut
import ClusterPower.Proofs.Pool.Turn
import Mathlib.Data.Finset.Card
import Mathlib.Logic.Function.Basic
import Mathlib.Logic.Relation

/-!
Requests that are fanned out at once over one pool. Each caller submits its jobs one
after the other, waiting where the pool has no room, and then reads as many reports
as jobs were taken. Callers, workers and a stop of the pool act in any order, so that
a statement about all reachable traffic is one about all interleavings.
-/

namespace ClusterPower.FanOut

/-! ## Requests -/

/-- What a caller asks for: one command for all targets, or for each the command under
its name. -/
inductive Request where
  | same (command : Command) (targets : List Target)
  | byName (commands : Table Command) (targets : List Target)

namespace Request

def targets : Request → List Target
  | .same _ targets => targets
  | .byName _ targets => targets

def calls : Request → List (Target × Command)
  | .same command targets => callsOf command targets
  | .byName commands targets => callsByName commands targets

/-- Fresh jobs for the calls of a request, in order and told apart by number. -/
structure Makes (request : Request) (jobs : List Job) : Prop where
  calls : jobs.map (fun job => (job.target, job.command)) = request.calls
  fresh : ∀ job ∈ jobs, job.state = {}
  distinct : (jobs.map (·.number)).Nodup

end Request

/-! ## Callers -/

/-- One request under way. Reports arrive on a channel of its own. -/
structure Caller where
  ahead : List Job
  hand : Option Job := none
  count : Nat := 0
  refused : List Job := []
  room : Nat
  held : List JobReport := []
  received : List JobReport := []
  lost : List JobReport := []

namespace Caller

def opened (request : Request) (jobs : List Job) : Caller where
  ahead := jobs
  room := max request.targets.length 1

def post (caller : Caller) (report : JobReport) : Caller :=
  if caller.held.length < caller.room then { caller with held := caller.held ++ [report] }
  else { caller with lost := caller.lost ++ [report] }

def accept (caller : Caller) : Caller :=
  { caller with count := caller.count + 1 }

def refuse (caller : Caller) (job : Job) : Caller :=
  { caller with refused := caller.refused ++ [job] }.post job.giveUp

def reports (caller : Caller) : List JobReport :=
  caller.received ++ caller.held

end Caller

/-! ## Traffic -/

/-- Callers at their places, and the pool that they share. -/
structure Traffic (Place : Type) where
  pool : Pool
  callers : Place → Caller

variable {Place : Type} [DecidableEq Place] (owner : Nat → Option Place)

namespace Traffic

def setCaller (traffic : Traffic Place) (place : Place) (caller : Caller) : Traffic Place :=
  { traffic with callers := Function.update traffic.callers place caller }

def tell (traffic : Traffic Place) (job : Job) (change : Caller → Caller) : Traffic Place :=
  match owner job.number with
  | some place => traffic.setCaller place (change (traffic.callers place))
  | none => traffic

def post (traffic : Traffic Place) (report : JobReport) : Traffic Place :=
  traffic.tell owner report.job (·.post report)

def postAll (traffic : Traffic Place) (reports : List JobReport) : Traffic Place :=
  reports.foldl (post owner) traffic

/-- The channel that a job reports on has room. Jobs of others always find room. -/
def HasRoom (traffic : Traffic Place) (job : Job) : Prop :=
  ∀ place, owner job.number = some place →
    (traffic.callers place).held.length < (traffic.callers place).room

/-- A submission of the caller waits for room in the pool. -/
def Awaits (traffic : Traffic Place) (place : Place) : Prop :=
  ∃ job ∈ traffic.pool.waiting, owner job.number = some place

structure HasSubmitted (traffic : Traffic Place) (place : Place) : Prop where
  ahead : (traffic.callers place).ahead = []
  hand : (traffic.callers place).hand = none
  entered : ¬traffic.Awaits owner place

/-- The caller has read as many reports as it waits for. -/
structure HasReturned (traffic : Traffic Place) (place : Place) : Prop where
  submitted : traffic.HasSubmitted owner place
  collected : (traffic.callers place).received.length = (traffic.callers place).count

end Traffic

/-! ## Steps -/

/-- Anything that submissions and workers may do next. -/
inductive Move (gateway : Gateway) (traffic : Traffic Place) : Traffic Place → Prop
  | refuse {place job rest} (next : (traffic.callers place).ahead = job :: rest)
      (free : (traffic.callers place).hand = none) (entered : ¬traffic.Awaits owner place)
      (stopped : traffic.pool.stopped = true) :
      Move gateway traffic (traffic.setCaller place
        ({ traffic.callers place with ahead := rest }.refuse job))
  | prepare {place job rest} (next : (traffic.callers place).ahead = job :: rest)
      (free : (traffic.callers place).hand = none) (entered : ¬traffic.Awaits owner place)
      (going : traffic.pool.stopped = false) :
      Move gateway traffic (traffic.setCaller place
        { traffic.callers place with ahead := rest, hand := some job.enqueue })
  | accept {place job pool} (hand : (traffic.callers place).hand = some job)
      (sent : traffic.pool.send job = (.accepted, pool)) :
      Move gateway traffic ({ traffic with pool }.setCaller place
        { traffic.callers place with hand := none }.accept)
  | await {place job pool} (hand : (traffic.callers place).hand = some job)
      (sent : traffic.pool.send job = (.waiting, pool)) :
      Move gateway traffic ({ traffic with pool }.setCaller place
        { traffic.callers place with hand := none })
  | bounce {place job report pool} (hand : (traffic.callers place).hand = some job)
      (sent : traffic.pool.send job = (.refused report, pool)) :
      Move gateway traffic (traffic.setCaller place
        ({ traffic.callers place with hand := none }.refuse job))
  | enter {index job pool} (entered : traffic.pool.enter? index = some (job, pool)) :
      Move gateway traffic ({ traffic with pool }.tell owner job Caller.accept)
  | dismiss {index job pool} (dismissed : traffic.pool.dismiss? index = some (job, pool)) :
      Move gateway traffic ({ traffic with pool }.tell owner job (·.refuse job))
  | turn {reports pool}
      (turn : Pool.Turn (fun job => gateway.call job.command job.target)
        (traffic.HasRoom owner) traffic.pool reports pool) :
      Move gateway traffic ({ traffic with pool }.postAll owner reports)

/-- A caller that has submitted all its jobs reads a report that it waits for. -/
inductive Read (traffic : Traffic Place) : Traffic Place → Prop
  | receive {place report rest} (submitted : traffic.HasSubmitted owner place)
      (wanted : (traffic.callers place).received.length < (traffic.callers place).count)
      (arrived : (traffic.callers place).held = report :: rest) :
      Read traffic (traffic.setCaller place
        { traffic.callers place with
          held := rest, received := (traffic.callers place).received ++ [report] })

inductive Step (gateway : Gateway) (traffic : Traffic Place) : Traffic Place → Prop
  | move {after} (move : Move owner gateway traffic after) : Step gateway traffic after
  | read {after} (read : Read owner traffic after) : Step gateway traffic after
  | stop (going : traffic.pool.stopped = false) :
      Step gateway traffic { traffic with pool := traffic.pool.stop }

def Reaches (gateway : Gateway) : Traffic Place → Traffic Place → Prop :=
  Relation.ReflTransGen (Step owner gateway)

/-- Submissions and workers have nothing left to do. There may be reports to read. -/
def Idles (gateway : Gateway) (traffic : Traffic Place) : Prop :=
  ∀ after, ¬Move owner gateway traffic after

/-- Nothing can happen any more, unless the pool is stopped. -/
structure Rests (gateway : Gateway) (traffic : Traffic Place) : Prop where
  idles : Idles owner gateway traffic
  read : ∀ after, ¬Read owner traffic after

/-- Callers that are about to submit their jobs to a pool, which may be in any state
and hold jobs of others. -/
structure Opens (requests : Place → Request) (traffic : Traffic Place) : Prop where
  sound : traffic.pool.Sound
  others : ∀ ticket ∈ traffic.pool.tickets, owner ticket.number = none
  opened : ∀ place, ∃ jobs, (requests place).Makes jobs ∧
    (∀ job ∈ jobs, owner job.number = some place) ∧
    traffic.callers place = Caller.opened (requests place) jobs

end ClusterPower.FanOut
