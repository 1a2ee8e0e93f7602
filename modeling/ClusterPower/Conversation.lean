import ClusterPower.Http.Exchange

/-!
Conversations with BMCs as data. A conversation asks one request after the
other, each depending on the answers so far, may pause, and ends with a result.
It can be run against any world that answers requests, so a statement about all
runs is a statement about every behaviour that a BMC can show.
-/

namespace ClusterPower

open Http

inductive Conversation (Result : Type) where
  | done (result : Result)
  | ask (request : Request) (next : Answer → Conversation Result)
  | pause (seconds : Nat) (next : Conversation Result)

namespace Conversation

variable {Result Next State : Type}

def bind (conversation : Conversation Result) (following : Result → Conversation Next) :
    Conversation Next :=
  match conversation with
  | .done result => following result
  | .ask request next => .ask request fun answer => (next answer).bind following
  | .pause seconds next => .pause seconds (next.bind following)

instance : Monad Conversation where
  pure := .done
  bind := bind

abbrev World (State : Type) := Request → State → Answer × State

def run (world : World State) : Conversation Result → State → Result × State
  | .done result, state => (result, state)
  | .ask request next, state =>
    let (answer, state) := world request state
    (next answer).run world state
  | .pause _ next, state => next.run world state

inductive Event where
  | asked (request : Request) (answer : Answer)
  | paused (seconds : Nat)
deriving DecidableEq, Repr

def trace (world : World State) :
    Conversation Result → State → List Event × Result × State
  | .done result, state => ([], result, state)
  | .ask request next, state =>
    let (answer, state) := world request state
    let (events, rest) := (next answer).trace world state
    (.asked request answer :: events, rest)
  | .pause seconds next, state =>
    let (events, rest) := next.trace world state
    (.paused seconds :: events, rest)

theorem trace_run (world : World State) (conversation : Conversation Result)
    (state : State) : (conversation.trace world state).2 = conversation.run world state := by
  induction conversation generalizing state with
  | done result => rfl
  | ask request next induction => exact induction _ _
  | pause seconds next induction => exact induction _

def nowhere : World State := fun _ state => (.unreachable, state)

end Conversation

end ClusterPower
