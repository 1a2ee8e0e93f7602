import ClusterPower.Proofs.Bmc.Exchange
import Mathlib.Data.Nat.Find

/-!
Waits for Off, poll by poll. A wait ends well with the first poll that shows Off, and fails when
it has polled once more than it may retry. It pauses between two polls, and neither before the
first nor behind the last.
-/

namespace ClusterPower

open Http

namespace Conversation

variable {Result : Type} {conversation : Conversation Result} {events : List Event}
  {ending : Result}

def inTurn : World (Nat → Answer) :=
  fun _ answers => (answers 0, fun turn => answers (turn + 1))

theorem exists_inTurn_of_goes (goes : conversation.Goes events ending) :
    ∃ answers later, conversation.trace inTurn answers = (events, ending, later) := by
  induction conversation generalizing events with
  | done result =>
      rcases goes with ⟨rfl, rfl⟩
      exact ⟨fun _ => .unreachable, _, rfl⟩
  | ask request next induction =>
      rcases goes with ⟨answer, behind, rfl, goes⟩
      rcases induction answer goes with ⟨answers, later, held⟩
      refine ⟨fun turn => turn.casesOn answer answers, later, ?_⟩
      change (.asked request answer :: ((next answer).trace inTurn answers).1,
        ((next answer).trace inTurn answers).2) = _
      rw [held]
  | pause seconds next induction =>
      rcases goes with ⟨behind, rfl, goes⟩
      rcases induction goes with ⟨answers, later, held⟩
      exact ⟨answers, later, by rw [trace, held]⟩

end Conversation

namespace Gateway

open Conversation

variable {gateway : Gateway} {target : Target} {pause retries index : Nat}
  {answers : Nat → Answer}

/-! ## Single polls -/

def statusOf (target : Target) (answer : Answer) : Outcome :=
  match usable target answer with
  | .ok reply => polled target reply.body
  | .error outcome => outcome

theorem call_readState (real : gateway.simulation = false) (hosted : target.host ≠ "") :
    gateway.call .readState target =
      .ask (gateway.request target .get target.basePath)
        fun answer => .done (statusOf target answer) := by
  have named : ¬target.host.isEmpty = true := by simpa using hosted
  unfold call readState exchange
  rw [if_neg named]
  dsimp only
  rw [if_neg (by simp [real])]
  congr 1
  funext answer
  unfold statusOf
  cases usable target answer <;> rfl

/-! ## Polls with pauses -/

/-- The events of polls that are answered like this, with a pause between each two. -/
def polls (gateway : Gateway) (target : Target) (pause : Nat) (given : List Answer) :
    List Event :=
  (given.map (.asked (gateway.request target .get target.basePath))).intersperse (.paused pause)

theorem polls_cons (answer : Answer) {given : List Answer} (more : given ≠ []) :
    gateway.polls target pause (answer :: given) =
      .asked (gateway.request target .get target.basePath) answer :: .paused pause ::
        gateway.polls target pause given := by
  cases given with
  | nil => exact absurd rfl more
  | cons first rest => rfl

def upTo (answers : Nat → Answer) (count : Nat) : List Answer :=
  (List.range count).map answers

theorem upTo_succ (answers : Nat → Answer) (count : Nat) :
    upTo answers (count + 1) = answers 0 :: upTo (fun turn => answers (turn + 1)) count := by
  rw [upTo, List.range_succ_eq_map, List.map_cons, List.map_map]
  rfl

theorem upTo_ne_nil (answers : Nat → Answer) (count : Nat) : upTo answers (count + 1) ≠ [] := by
  rw [upTo_succ]
  exact List.cons_ne_nil _ _

/-! ## Waits -/

section Waits

variable (real : gateway.simulation = false) (hosted : target.host ≠ "")

include real hosted

theorem trace_awaitOff_of_confirmed
    (confirmed : confirmsOff (statusOf target (answers 0)) = true) :
    (gateway.awaitOff target pause retries).trace inTurn answers =
      (gateway.polls target pause (upTo answers 1), .found target Outcome.stateOff,
        fun turn => answers (turn + 1)) := by
  cases retries with
  | zero | succ retries =>
      rw [awaitOff, call_readState real hosted]
      simp only [Conversation.bind, trace, inTurn, confirmed, if_true]
      rfl

theorem trace_awaitOff_of_unconfirmed
    (unconfirmed : confirmsOff (statusOf target (answers 0)) = false) :
    (gateway.awaitOff target pause (retries + 1)).trace inTurn answers =
      let rest := (gateway.awaitOff target pause retries).trace inTurn
        fun turn => answers (turn + 1)
      (.asked (gateway.request target .get target.basePath) (answers 0) :: .paused pause :: rest.1,
        rest.2) := by
  rw [awaitOff, call_readState real hosted]
  simp only [Conversation.bind, trace, inTurn, unconfirmed, Bool.false_eq_true, if_false]

theorem trace_awaitOff_of_first (within : index ≤ retries)
    (confirmed : confirmsOff (statusOf target (answers index)) = true)
    (earlier : ∀ turn < index, confirmsOff (statusOf target (answers turn)) = false) :
    (gateway.awaitOff target pause retries).trace inTurn answers =
      (gateway.polls target pause (upTo answers (index + 1)), .found target Outcome.stateOff,
        fun turn => answers (turn + (index + 1))) := by
  induction index generalizing retries answers with
  | zero => exact trace_awaitOff_of_confirmed real hosted confirmed
  | succ index induction =>
      rcases Nat.exists_eq_add_of_lt within with ⟨more, rfl⟩
      have later := @induction (index + more) (fun turn => answers (turn + 1))
        (Nat.le_add_right _ _) confirmed
        fun turn less => earlier (turn + 1) (Nat.succ_lt_succ less)
      rw [trace_awaitOff_of_unconfirmed real hosted (earlier 0 (Nat.succ_pos _)), later,
        upTo_succ answers, polls_cons _ (upTo_ne_nil _ _)]
      rfl

theorem trace_awaitOff_of_never
    (never : ∀ turn ≤ retries, confirmsOff (statusOf target (answers turn)) = false) :
    (gateway.awaitOff target pause retries).trace inTurn answers =
      (gateway.polls target pause (upTo answers (retries + 1)), neverOff target,
        fun turn => answers (turn + (retries + 1))) := by
  induction retries generalizing answers with
  | zero =>
      rw [awaitOff, call_readState real hosted]
      simp only [Conversation.bind, trace, inTurn, never 0 (Nat.le_refl 0), Bool.false_eq_true,
        if_false]
      rfl
  | succ retries induction =>
      have later := @induction (fun turn => answers (turn + 1))
        fun turn less => never (turn + 1) (Nat.succ_le_succ less)
      rw [trace_awaitOff_of_unconfirmed real hosted (never 0 (Nat.zero_le _)), later,
        upTo_succ answers, polls_cons _ (upTo_ne_nil _ _)]
      rfl

end Waits

/-! ## Waits that end well -/

/-- The polls of a wait that ends well: the last of them shows Off, and no other does. -/
def SeesOff (gateway : Gateway) (target : Target) (pause retries : Nat) (events : List Event) :
    Prop :=
  ∃ answers index, index ≤ retries ∧
    events = gateway.polls target pause (upTo answers (index + 1)) ∧
    confirmsOff (statusOf target (answers index)) = true ∧
    ∀ turn < index, confirmsOff (statusOf target (answers turn)) = false

theorem goes_awaitOff_unhosted {events : List Event} {outcome : Outcome}
    (unhosted : target.host = "")
    (goes : (gateway.awaitOff target pause retries).Goes events outcome) :
    outcome = neverOff target := by
  have call : gateway.call .readState target = .done (withoutHost target) := by
    unfold call
    rw [if_pos (by simp [unhosted])]
  induction retries generalizing events with
  | zero =>
      rw [awaitOff, call] at goes
      exact goes.2
  | succ retries induction =>
      rw [awaitOff, call] at goes
      rcases goes with ⟨later, rfl, goes⟩
      exact induction goes

theorem goes_awaitOff_of_isOk {events : List Event} {outcome : Outcome}
    (real : gateway.simulation = false)
    (goes : (gateway.awaitOff target pause retries).Goes events outcome)
    (ok : outcome.isOk = true) :
    gateway.SeesOff target pause retries events ∧ outcome = .found target Outcome.stateOff := by
  by_cases hosted : target.host = ""
  · rw [goes_awaitOff_unhosted hosted goes] at ok
    cases ok
  rcases exists_inTurn_of_goes goes with ⟨answers, later, held⟩
  by_cases shown : ∃ index, index ≤ retries ∧
      confirmsOff (statusOf target (answers index)) = true
  · rcases Nat.find_spec shown with ⟨within, confirmed⟩
    have earlier : ∀ turn < Nat.find shown,
        confirmsOff (statusOf target (answers turn)) = false := by
      intro turn less
      rw [Bool.eq_false_iff]
      intro confirmed
      exact Nat.find_min shown less ⟨Nat.le_trans (Nat.le_of_lt less) within, confirmed⟩
    rw [trace_awaitOff_of_first real hosted within confirmed earlier, Prod.mk.injEq,
      Prod.mk.injEq] at held
    exact ⟨⟨answers, _, within, held.1.symm, confirmed, earlier⟩, held.2.1.symm⟩
  · have never : ∀ turn ≤ retries, confirmsOff (statusOf target (answers turn)) = false := by
      intro turn within
      rw [Bool.eq_false_iff]
      exact fun confirmed => shown ⟨turn, within, confirmed⟩
    rw [trace_awaitOff_of_never real hosted never, Prod.mk.injEq, Prod.mk.injEq] at held
    rw [← held.2.1] at ok
    cases ok

end Gateway

end ClusterPower
