import ClusterPower.Bmc.Gateway
import ClusterPower.Proofs.Ending
import ClusterPower.Proofs.History

/-!
Single requests and what comes of their answers. Only a reply that was read to its end and
refuses nothing lets a command go on.
-/

namespace ClusterPower.Gateway

open Conversation Http

variable {gateway : Gateway} {target : Target} {request : Request} {events : List Event}
  {outcome : Outcome}

/-- A reply that was read to its end and refuses nothing. -/
def Accepted (answer : Answer) : Prop :=
  ∃ reply, answer = .reply reply ∧ reply.status < 400

def concluded (target : Target) : Answer → Outcome
  | .unreachable => noAnswer target
  | .truncated => brokenAnswer target
  | .reply reply => if reply.status < 400 then .succeeded target "" else refused target reply

theorem usable_of_lt {reply : Reply} (good : reply.status < 400) :
    usable target (.reply reply) = .ok reply :=
  if_neg (by omega)

theorem usable_of_not_accepted {answer : Answer} (refuses : ¬Accepted answer) :
    usable target answer = .error (concluded target answer) := by
  cases answer with
  | unreachable => rfl
  | truncated => rfl
  | reply reply =>
      have bad : ¬reply.status < 400 := fun good => refuses ⟨reply, rfl, good⟩
      simp only [usable, concluded, if_neg bad]
      exact if_pos (by omega)

theorem code_concluded_ne_zero {answer : Answer} (refuses : ¬Accepted answer) :
    (concluded target answer).code ≠ 0 := by
  cases answer with
  | unreachable => simp [concluded, noAnswer, Outcome.failed]
  | truncated => simp [concluded, brokenAnswer, Outcome.failed]
  | reply reply =>
      have bad : ¬reply.status < 400 := fun good => refuses ⟨reply, rfl, good⟩
      simp only [concluded, if_neg bad, refused]
      omega

theorem endsIn_exchange {good : Outcome → Prop} {next : Reply → Conversation Outcome}
    (unusable : ∀ answer outcome, usable target answer = .error outcome → good outcome)
    (endsIn : ∀ reply, (next reply).EndsIn good) :
    (exchange target request next).EndsIn good := by
  intro outcome ends
  obtain ⟨answer, ends⟩ := ends
  cases result : usable target answer with
  | ok reply =>
      simp only [result] at ends
      exact endsIn reply outcome ends
  | error other =>
      simp only [result] at ends
      rw [ends]
      exact unusable answer other result

theorem polled_shows_iff {body : Bytes} {state : String} :
    ((polled target body).isOk = true ∧ (polled target body).state = state) ↔
      reportedState? target.resource body = some state := by
  unfold polled
  cases resource : target.resource with
  | unknown =>
      have silent : reportedState? .unknown body = none := by
        unfold reportedState?
        cases Json.read? body <;> rfl
      simp [silent, Outcome.unfinished, Outcome.isOk]
  | computerSystem | chassis | manager | outlet =>
      dsimp only
      split
      · next reported => simp [reported, Outcome.found, Outcome.isOk]
      · next reported => simp [reported, Outcome.failed, Outcome.isOk]

theorem goes_exchange {next : Reply → Conversation Outcome} :
    (exchange target request next).Goes events outcome ↔
      ∃ answer later, events = .asked request answer :: later ∧
        ((∃ reply, answer = .reply reply ∧ reply.status < 400 ∧
            (next reply).Goes later outcome) ∨
          (¬Accepted answer ∧ later = [] ∧ outcome = concluded target answer)) := by
  rw [exchange, goes_ask]
  apply exists_congr
  intro answer
  apply exists_congr
  intro later
  apply and_congr_right'
  by_cases accepted : Accepted answer
  · rcases accepted with ⟨reply, rfl, good⟩
    rw [usable_of_lt good]
    constructor
    · exact fun goes => Or.inl ⟨reply, rfl, good, goes⟩
    · rintro (⟨_, same, _, goes⟩ | ⟨refuses, _⟩)
      · cases same
        exact goes
      · exact absurd ⟨reply, rfl, good⟩ refuses
  · rw [usable_of_not_accepted accepted]
    constructor
    · exact fun ends => Or.inr ⟨accepted, ends⟩
    · rintro (⟨reply, rfl, good, _⟩ | ⟨_, ends⟩)
      · exact absurd ⟨reply, rfl, good⟩ accepted
      · exact ends

theorem goes_last_exchange :
    (exchange target request fun _ => .done (.succeeded target "")).Goes events outcome ↔
      ∃ answer, events = [.asked request answer] ∧ outcome = concluded target answer := by
  rw [goes_exchange]
  constructor
  · rintro ⟨answer, _, rfl, ⟨reply, rfl, good, rfl, rfl⟩ | ⟨_, rfl, rfl⟩⟩
    · exact ⟨_, rfl, (if_pos good).symm⟩
    · exact ⟨answer, rfl, rfl⟩
  · rintro ⟨answer, rfl, rfl⟩
    refine ⟨answer, [], rfl, ?_⟩
    by_cases accepted : Accepted answer
    · rcases accepted with ⟨reply, rfl, good⟩
      exact Or.inl ⟨reply, rfl, good, rfl, if_pos good⟩
    · exact Or.inr ⟨accepted, rfl, rfl⟩

end ClusterPower.Gateway
