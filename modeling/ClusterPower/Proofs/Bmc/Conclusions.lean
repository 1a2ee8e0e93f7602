import ClusterPower.Proofs.Bmc.Exchange

/-!
What a command may come to, whatever it is answered: a success, a failure with its reason, or a
refusal. Only a poll of a resource of unknown kind may also end as it began. What the outcomes of
all commands have in common is read off these forms.
-/

namespace ClusterPower.Gateway

open Conversation Http

/-- The forms of outcomes, but for that of a poll that comes to nothing. -/
inductive Concludes (target : Target) : Outcome → Prop
  | succeeded (message : String) : Concludes target (.succeeded target message)
  | found (state : String) : Concludes target (.found target state)
  | failed (message : String) (given : message ≠ "") : Concludes target (.failed target message)
  | refused (reply : Reply) : Concludes target (refused target reply)

variable (gateway : Gateway) {target : Target} {outcome : Outcome}

theorem Concludes.target_eq (concludes : Concludes target outcome) :
    outcome.target = target := by
  cases concludes <;> rfl

/-! ## Single requests -/

theorem concludes_concluded (target : Target) (answer : Answer) :
    Concludes target (concluded target answer) := by
  cases answer with
  | unreachable => exact .failed _ (by simp)
  | truncated => exact .failed _ (by decide)
  | reply reply =>
      rw [concluded]
      split
      · exact .succeeded ""
      · exact .refused reply

theorem concludes_unusable {answer : Answer} (unusable : usable target answer = .error outcome) :
    Concludes target outcome := by
  by_cases accepted : Accepted answer
  · obtain ⟨reply, rfl, good⟩ := accepted
    rw [usable_of_lt good] at unusable
    cases unusable
  · rw [usable_of_not_accepted accepted] at unusable
    cases unusable
    exact concludes_concluded target answer

theorem concludes_exchange {request : Request} {next : Reply → Conversation Outcome}
    (concludes : ∀ reply, (next reply).EndsIn (Concludes target)) :
    (exchange target request next).EndsIn (Concludes target) :=
  endsIn_exchange (fun _ _ => concludes_unusable) concludes

theorem concludes_simulated : (done (Outcome.simulated target)).EndsIn (Concludes target) :=
  endsIn_done (.found _)

/-! ## Polls -/

/-- A poll may also come to nothing. -/
def PollConcludes (target : Target) (outcome : Outcome) : Prop :=
  Concludes target outcome ∨ target.resource = .unknown ∧ outcome = .unfinished target

theorem pollConcludes_polled (target : Target) (body : Bytes) :
    PollConcludes target (polled target body) := by
  unfold polled
  split
  · next unknown => exact Or.inr ⟨unknown, rfl⟩
  · split
    · exact Or.inl (.found _)
    · exact Or.inl (.failed _ (by simp))

theorem pollConcludes_readState :
    (gateway.readState target).EndsIn (PollConcludes target) := by
  unfold readState
  split
  · exact endsIn_done (Or.inl (.found _))
  · apply endsIn_exchange
    · exact fun _ _ unusable => Or.inl (concludes_unusable unusable)
    · exact fun reply => endsIn_done (pollConcludes_polled target reply.body)

/-! ## Changes -/

theorem concludes_postChange (body : Json) (sessionToken : Option Bytes) :
    (postChange gateway target body sessionToken).EndsIn (Concludes target) :=
  concludes_exchange fun _ => endsIn_done (.succeeded "")

theorem concludes_sendChange (body : Json) :
    (sendChange gateway target body).EndsIn (Concludes target) := by
  unfold sendChange
  split
  · exact concludes_exchange fun _ => gateway.concludes_postChange body _
  · exact gateway.concludes_postChange body none

theorem concludes_change (transition : Transition) :
    (gateway.change transition target).EndsIn (Concludes target) := by
  unfold change
  split
  · exact endsIn_done (.failed _ (by simp))
  · split
    · exact endsIn_done (.failed _ (by simp))
    · split
      · exact concludes_simulated
      · split
        · apply endsIn_bind
          intro probe _
          split
          · exact endsIn_done (.found _)
          · exact gateway.concludes_sendChange _
        · exact gateway.concludes_sendChange _

/-! ## Power caps -/

theorem concludes_readCaps : (gateway.readCaps target).EndsIn (Concludes target) := by
  unfold readCaps
  split
  · exact concludes_simulated
  · exact concludes_exchange fun _ => endsIn_done (.succeeded _)

theorem concludes_patchCaps (body : Bytes) (ifMatch : Option String) :
    (patchCaps gateway target body ifMatch).EndsIn (Concludes target) :=
  concludes_exchange fun _ => endsIn_done (.succeeded _)

theorem concludes_writeTagged (body : Bytes) :
    (writeTagged gateway target body).EndsIn (Concludes target) := by
  unfold writeTagged
  split
  · exact concludes_simulated
  · split
    · exact gateway.concludes_patchCaps body none
    · apply endsIn_bind
      intro current ends
      split
      · split
        · exact gateway.concludes_patchCaps body _
        · exact endsIn_done (.failed _ (by decide))
      · exact endsIn_done (gateway.concludes_readCaps current ends)

theorem concludes_postCaps (body : Bytes) :
    (postCaps gateway target body).EndsIn (Concludes target) := by
  unfold postCaps
  split
  · exact concludes_simulated
  · exact concludes_exchange fun _ => endsIn_done (.succeeded "")

theorem concludes_writeCaps (body : Bytes) :
    (gateway.writeCaps target body).EndsIn (Concludes target) := by
  unfold writeCaps
  split
  · exact gateway.concludes_postCaps body
  · exact gateway.concludes_writeTagged body
  · exact gateway.concludes_writeTagged body

/-! ## Commands -/

theorem concludes_withoutHost (target : Target) : Concludes target (withoutHost target) :=
  .failed _ (by simp)

theorem concludes_call (command : Command) (target : Target) :
    (gateway.call command target).EndsIn fun outcome => Concludes target outcome ∨
      command = .readState ∧ target.resource = .unknown ∧ outcome = .unfinished target := by
  unfold call
  split
  · exact endsIn_done (Or.inl (concludes_withoutHost target))
  · cases command with
    | readState =>
        exact gateway.pollConcludes_readState.imp fun _ poll =>
          poll.imp_right fun silent => ⟨rfl, silent⟩
    | change transition => exact (gateway.concludes_change transition).imp fun _ => Or.inl
    | readCaps => exact gateway.concludes_readCaps.imp fun _ => Or.inl
    | writeCaps body => exact (gateway.concludes_writeCaps body).imp fun _ => Or.inl

theorem concludes_awaitOff (target : Target) (pause retries : Nat) :
    (gateway.awaitOff target pause retries).EndsIn (Concludes target) := by
  induction retries with
  | zero =>
      apply endsIn_bind
      intro poll _
      apply endsIn_done
      split
      · exact .found _
      · exact .failed _ (by decide)
  | succ retries induction =>
      apply endsIn_bind
      intro poll _
      split
      · exact endsIn_done (.found _)
      · exact endsIn_pause induction

end ClusterPower.Gateway
