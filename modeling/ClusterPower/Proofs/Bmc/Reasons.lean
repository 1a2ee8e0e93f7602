import ClusterPower.Proofs.Bmc.Conclusions
import ClusterPower.Proofs.Bmc.PowerChange

/-!
Reasons of failures. Every failure of a command says why it failed, but for one: the poll of a
resource of unknown kind that is answered well. A wait always says why it has failed.
-/

namespace ClusterPower

/-- What has failed says why. -/
def Outcome.IsExplained (outcome : Outcome) : Prop :=
  outcome.code ≠ 0 → outcome.message ≠ ""

theorem Outcome.isExplained_of_success {outcome : Outcome} (succeeds : outcome.code = 0) :
    outcome.IsExplained :=
  fun fails => absurd succeeds fails

namespace Gateway

open Conversation Http

variable {gateway : Gateway} {target : Target} {events : List Event} {outcome : Outcome}

/-! ## Commands -/

theorem Concludes.isExplained (concludes : Concludes target outcome) : outcome.IsExplained := by
  cases concludes with
  | succeeded | found => exact Outcome.isExplained_of_success rfl
  | failed message given => exact fun _ => given
  | refused reply => exact fun _ => by simp [Gateway.refused, Outcome.failed, Bmc.refusalMessage]

theorem explains_call {command : Command}
    (known : ¬(command = .readState ∧ target.resource = .unknown)) :
    (gateway.call command target).EndsIn Outcome.IsExplained := by
  intro outcome ends
  obtain concludes | ⟨read, unknown, -⟩ := gateway.concludes_call command target outcome ends
  · exact concludes.isExplained
  · exact absurd ⟨read, unknown⟩ known

/-! ## Resources of unknown kind -/

theorem not_isExplained_iff_of_unknown (unknown : target.resource = .unknown)
    (goes : (gateway.call .readState target).Goes events outcome) :
    ¬outcome.IsExplained ↔
      ∃ answer, Accepted answer ∧ events = [.asked (probeRequest gateway target) answer] := by
  have unasked (explained : outcome.IsExplained) (none : events = []) :
      ¬outcome.IsExplained ↔
        ∃ answer, Accepted answer ∧ events = [.asked (probeRequest gateway target) answer] := by
    apply iff_of_false (not_not.mpr explained)
    intro answered
    obtain ⟨answer, -, asked⟩ := answered
    rw [none] at asked
    cases asked
  unfold call at goes
  split at goes
  · obtain ⟨none, rfl⟩ := goes
    exact unasked (concludes_withoutHost target).isExplained none
  · dsimp only [readState] at goes
    split at goes
    · obtain ⟨none, rfl⟩ := goes
      exact unasked (Outcome.isExplained_of_success rfl) none
    · obtain ⟨answer, later, rfl, ⟨reply, rfl, good, rfl, rfl⟩ | ⟨refuses, rfl, rfl⟩⟩ :=
        goes_exchange.mp goes
      · have silent : polled target reply.body = .unfinished target := by
          rw [polled, unknown]
        refine iff_of_true ?_ ⟨.reply reply, ⟨reply, rfl, good⟩, rfl⟩
        rw [silent]
        exact fun explained => explained (by simp [Outcome.unfinished]) rfl
      · apply iff_of_false (not_not.mpr (concludes_concluded target answer).isExplained)
        intro answered
        obtain ⟨other, accepted, same⟩ := answered
        cases same
        exact refuses accepted

/-- A command fails without a reason exactly if it asked for the state of a resource of unknown
kind and this one request was answered well. A wait for Off never does. -/
theorem unexplained_iff_unknown_resource_answers {State : Type} (gateway : Gateway)
    (target : Target) (command : Command) (pause retries : Nat) (world : World State)
    (state : State) :
    let course := (gateway.call command target).trace world state
    let wait := (gateway.awaitOff target pause retries).run world state
    (course.2.1.code ≠ 0 ∧ course.2.1.message = "" ↔
      command = .readState ∧ target.resource = .unknown ∧
        ∃ answer, Accepted answer ∧
          course.1 = [.asked (probeRequest gateway target) answer]) ∧
    (wait.1.code ≠ 0 → wait.1.message ≠ "") := by
  intro course wait
  refine ⟨?_, ((gateway.concludes_awaitOff target pause retries).run state).isExplained⟩
  have unexplained : course.2.1.code ≠ 0 ∧ course.2.1.message = "" ↔
      ¬course.2.1.IsExplained := by
    simp only [Outcome.IsExplained, ne_eq, Classical.not_imp, not_not]
  rw [unexplained]
  by_cases unknown : command = .readState ∧ target.resource = .unknown
  · obtain ⟨rfl, unknown⟩ := unknown
    have goes := goes_trace world (gateway.call .readState target) state
    rw [not_isExplained_iff_of_unknown unknown goes]
    simp only [unknown, true_and, course]
  · have explained : course.2.1.IsExplained := by
      have ends : ((gateway.call command target).run world state).1.IsExplained :=
        (explains_call unknown).run state
      rwa [← trace_run] at ends
    exact iff_of_false (not_not.mpr explained) fun read => unknown ⟨read.1, read.2.1⟩

/-- A node whose resource is of no known kind says that it is on, and that is a failure for no
reason. -/
theorem unknown_resource_fails_without_reason :
    let gateway : Gateway := { settings := {}, simulation := false }
    let node : Target := { xname := "x0", host := "b", resource := .unknown }
    let on : Answer := .reply ⟨200, [], Text.utf8 "\x7b\"PowerState\":\"On\"\x7d"⟩
    let outcome := ((gateway.call .readState node).run scripted [on]).1
    outcome.code = -1 ∧ outcome.message = "" := by
  decide +kernel

end Gateway

end ClusterPower
