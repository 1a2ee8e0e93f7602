import ClusterPower.Json.Basic
import ClusterPower.Outcome

/-! Outcomes of state polls, sorted into on, off, neither and failed. -/

namespace ClusterPower

structure StateReport where
  on : List String
  off : List String
  undefined : List String
  errors : List Outcome
deriving Inhabited

namespace StateReport

inductive Class where
  | on
  | off
  | undefined
  | failed
deriving DecidableEq, Repr

def classOf (outcome : Outcome) : Class :=
  if !outcome.isOk then .failed
  else if outcome.state = Outcome.stateOn then .on
  else if outcome.state = Outcome.stateOff then .off
  else .undefined

def ofClass (wanted : Class) (outcomes : List Outcome) : List Outcome :=
  outcomes.filter fun outcome => classOf outcome == wanted

def namesOf (wanted : Class) (outcomes : List Outcome) : List String :=
  ((ofClass wanted outcomes).map (·.target.xname)).mergeSort fun left right =>
    decide (left ≤ right)

def ofOutcomes (outcomes : List Outcome) : StateReport where
  on := namesOf .on outcomes
  off := namesOf .off outcomes
  undefined := namesOf .undefined outcomes
  errors := (ofClass .failed outcomes).mergeSort fun left right =>
    decide (left.target.xname ≤ right.target.xname)

def toJson (report : StateReport) : Json :=
  .object [
    ("on", .array (report.on.map .text)),
    ("off", .array (report.off.map .text)),
    ("undefined", .array (report.undefined.map .text)),
    ("errors", .array (report.errors.map fun outcome =>
      .object [
        ("xname", .text outcome.target.xname), ("rc", .integer outcome.code),
        ("msg", .text outcome.message)]))]

end StateReport

end ClusterPower
