import ClusterPower.Proofs.Bmc.Exchange
import ClusterPower.Proofs.Bmc.OwnTarget

/-!
Waits for Off are confirmed. A wait ends well only after a poll of the target has been
answered with exactly Off.
-/

namespace ClusterPower.Gateway

open Conversation Http

variable {gateway : Gateway} {target : Target}

/-! ## Polls -/

/-- A poll of the target whose answer says that it is off. -/
def ShowsOff (gateway : Gateway) (target : Target) (request : Request) (answer : Answer) :
    Prop :=
  request = gateway.request target .get target.basePath ∧
    ∃ reply, answer = .reply reply ∧ reply.status < 400 ∧
      reportedState? target.resource reply.body = some Outcome.stateOff

theorem reportedState?_of_confirmsOff {body : Bytes}
    (confirmed : confirmsOff (polled target body) = true) :
    reportedState? target.resource body = some Outcome.stateOff := by
  simp only [confirmsOff, Bool.and_eq_true, beq_iff_eq] at confirmed
  exact polled_shows_iff.mp confirmed

theorem reply_of_usable {answer : Answer} {reply : Reply}
    (usable : usable target answer = .ok reply) : answer = .reply reply ∧ reply.status < 400 := by
  by_cases accepted : Accepted answer
  · rcases accepted with ⟨other, rfl, good⟩
    rw [usable_of_lt good] at usable
    cases usable
    exact ⟨rfl, good⟩
  · rw [usable_of_not_accepted accepted] at usable
    cases usable

theorem state_of_usable_error {answer : Answer} {outcome : Outcome}
    (unusable : usable target answer = .error outcome) :
    outcome.state = Outcome.stateUnknown := by
  unfold usable at unusable
  split at unusable
  · cases unusable
    rfl
  · cases unusable
    rfl
  · split at unusable
    · cases unusable
      rfl
    · cases unusable

/-! ## Ends of a wait -/

/-- A conversation ends well only where Off has been shown. -/
def Confirms (gateway : Gateway) (target : Target) : Prop → Conversation Outcome → Prop
  | shown, .done outcome => outcome.isOk = true → shown
  | shown, .ask request next => ∀ answer,
    Confirms gateway target (shown ∨ gateway.ShowsOff target request answer) (next answer)
  | shown, .pause _ next => Confirms gateway target shown next

variable {shown later : Prop} {conversation : Conversation Outcome}

theorem Confirms.mono (confirms : gateway.Confirms target shown conversation)
    (implies : shown → later) : gateway.Confirms target later conversation := by
  induction conversation generalizing shown later with
  | done outcome => exact fun ok => implies (confirms ok)
  | ask request next induction =>
      intro answer
      exact induction answer (confirms answer) (Or.imp_left implies)
  | pause seconds next induction => exact induction confirms implies

theorem confirms_of_shown (here : shown) : gateway.Confirms target shown conversation := by
  induction conversation generalizing shown with
  | done outcome => exact fun _ => here
  | ask request next induction => exact fun answer => induction answer (Or.inl here)
  | pause seconds next induction => exact induction here

theorem confirms_poll {following : Outcome → Conversation Outcome}
    (unconfirmed : ∀ poll, confirmsOff poll = false →
      gateway.Confirms target shown (following poll)) :
    gateway.Confirms target shown ((gateway.call .readState target).bind following) := by
  unfold call
  by_cases nowhere : target.host.isEmpty = true
  · rw [if_pos nowhere]
    exact unconfirmed (withoutHost target) rfl
  · rw [if_neg nowhere]
    dsimp only
    unfold readState
    split
    · exact unconfirmed (.simulated target) rfl
    · intro answer
      dsimp only
      cases used : usable target answer with
      | error outcome =>
          have unknown := state_of_usable_error used
          have silent : confirmsOff outcome = false := by
            rw [confirmsOff, unknown]
            exact Bool.and_false _
          exact (unconfirmed outcome silent).mono Or.inl
      | ok reply =>
          cases confirmed : confirmsOff (polled target reply.body) with
          | false => exact (unconfirmed _ confirmed).mono Or.inl
          | true =>
              have replied := reply_of_usable used
              exact confirms_of_shown (Or.inr ⟨rfl, reply, replied.1, replied.2,
                reportedState?_of_confirmsOff confirmed⟩)

theorem confirms_awaitOff (target : Target) (pause retries : Nat) :
    gateway.Confirms target False (gateway.awaitOff target pause retries) := by
  induction retries with
  | zero =>
      apply confirms_poll
      intro poll unconfirmed
      rw [unconfirmed]
      intro ok
      cases ok
  | succ retries induction =>
      apply confirms_poll
      intro poll unconfirmed
      rw [unconfirmed]
      exact induction

end ClusterPower.Gateway
