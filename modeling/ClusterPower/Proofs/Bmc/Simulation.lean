import ClusterPower.Bmc.Gateway
import ClusterPower.Proofs.History

/-!
Simulated calls. A simulated call ends at once, without a request. It fails exactly as the call
itself would without asking anybody, and succeeds where the call itself begins with a request.
-/

namespace ClusterPower

namespace Conversation

variable {Result Next : Type}

/-! ## Conversations that ask nothing -/

/-- No answer is needed to come to the end. -/
def Silent : Conversation Result → Prop
  | .done _ => True
  | .ask _ _ => False
  | .pause _ next => next.Silent

theorem silent_bind {conversation : Conversation Result}
    {following : Result → Conversation Next} (silent : conversation.Silent)
    (later : ∀ result, (following result).Silent) : (conversation.bind following).Silent := by
  induction conversation with
  | done result => exact later result
  | ask request next => exact silent.elim
  | pause seconds next induction => exact induction silent

def Event.request? : Event → Option Http.Request
  | asked request _ => some request
  | paused _ => none

def requestsOf (events : List Event) : List Http.Request :=
  events.filterMap Event.request?

theorem requestsOf_of_silent {conversation : Conversation Result} {events : List Event}
    {ending : Result} (silent : conversation.Silent) (goes : conversation.Goes events ending) :
    requestsOf events = [] := by
  induction conversation generalizing events with
  | done result =>
      rw [goes.1]
      rfl
  | ask request next => exact silent.elim
  | pause seconds next induction =>
      rcases goes with ⟨later, rfl, goes⟩
      have rest := induction silent goes
      exact rest

/-! ## Conversations that begin with a request -/

/-- Nothing comes before the first request. -/
def Asks (conversation : Conversation Result) : Prop :=
  ∃ request next, conversation = .ask request next

theorem Asks.bind {conversation : Conversation Result} {following : Result → Conversation Next}
    (asks : conversation.Asks) : (conversation.bind following).Asks := by
  rcases asks with ⟨request, next, rfl⟩
  exact ⟨request, _, rfl⟩

theorem Asks.requestsOf_ne_nil {conversation : Conversation Result} {events : List Event}
    {ending : Result} (asks : conversation.Asks) (goes : conversation.Goes events ending) :
    requestsOf events ≠ [] := by
  rcases asks with ⟨request, next, rfl⟩
  rcases goes with ⟨answer, later, rfl, _⟩
  exact List.cons_ne_nil _ _

end Conversation

namespace Gateway

open Conversation

variable (gateway : Gateway)

def simulated : Gateway := { gateway with simulation := true }

def real : Gateway := { gateway with simulation := false }

/-! ## Simulated commands -/

/-- A conversation fails the same way whether it is simulated or not, and asks nobody, or it is
kept from asking by the simulation alone. -/
inductive Mimics (target : Target) :
    Conversation Outcome → Conversation Outcome → Prop
  | failed {outcome} (code : outcome.code = -1) : Mimics target (.done outcome) (.done outcome)
  | kept {genuine} (asks : genuine.Asks) : Mimics target (.done (.simulated target)) genuine

theorem Mimics.silent {target : Target} {mimic genuine : Conversation Outcome}
    (mimics : Mimics target mimic genuine) : mimic.Silent := by
  cases mimics with
  | failed => trivial
  | kept => trivial

theorem asks_exchange (target : Target) (request : Http.Request)
    (next : Http.Reply → Conversation Outcome) : (exchange target request next).Asks :=
  ⟨_, _, rfl⟩

theorem asks_sendChange (target : Target) (body : Json) :
    (gateway.sendChange target body).Asks := by
  unfold sendChange
  split
  · exact asks_exchange _ _ _
  · exact asks_exchange _ _ _

theorem mimics_readState (target : Target) :
    Mimics target (gateway.simulated.readState target) (gateway.real.readState target) :=
  .kept (asks_exchange _ _ _)

theorem mimics_change (transition : Transition) (target : Target) :
    Mimics target (gateway.simulated.change transition target)
      (gateway.real.change transition target) := by
  unfold change
  dsimp only [simulated, real]
  cases gateway.settings.resetToken transition target.resetTokens with
  | error error => exact .failed rfl
  | ok token =>
      dsimp only
      cases changeBody? target token with
      | none => exact .failed rfl
      | some body =>
          apply Mimics.kept
          simp only [Bool.false_eq_true, if_false]
          split
          · exact Asks.bind (asks_exchange _ _ _)
          · exact asks_sendChange _ _ _

theorem mimics_readCaps (target : Target) :
    Mimics target (gateway.simulated.readCaps target) (gateway.real.readCaps target) :=
  .kept (asks_exchange _ _ _)

theorem mimics_writeCaps (target : Target) (body : Bytes) :
    Mimics target (gateway.simulated.writeCaps target body)
      (gateway.real.writeCaps target body) := by
  unfold writeCaps
  cases target.traits.capStyle with
  | posted => exact .kept (asks_exchange _ _ _)
  | indexed | members =>
      apply Mimics.kept
      unfold writeTagged
      simp only [real, Bool.false_eq_true, if_false]
      split
      · exact asks_exchange _ _ _
      · exact Asks.bind (asks_exchange _ _ _)

theorem mimics_call (command : Command) (target : Target) :
    Mimics target (gateway.simulated.call command target) (gateway.real.call command target) := by
  unfold call
  split
  · exact .failed rfl
  · cases command with
    | readState => exact gateway.mimics_readState target
    | change transition => exact gateway.mimics_change transition target
    | readCaps => exact gateway.mimics_readCaps target
    | writeCaps body => exact gateway.mimics_writeCaps target body

theorem silent_call (simulates : gateway.simulation = true) (command : Command)
    (target : Target) : (gateway.call command target).Silent := by
  have same : gateway.simulated = gateway := by rw [simulated, ← simulates]
  rw [← same]
  exact (gateway.mimics_call command target).silent

theorem silent_awaitOff (simulates : gateway.simulation = true) (target : Target)
    (pause retries : Nat) : (gateway.awaitOff target pause retries).Silent := by
  induction retries with
  | zero => exact silent_bind (gateway.silent_call simulates _ _) fun _ => trivial
  | succ retries induction =>
      refine silent_bind (gateway.silent_call simulates _ _) fun poll => ?_
      split
      · trivial
      · exact induction

end Gateway

end ClusterPower
