import ClusterPower.Proofs.Bmc.LastAnswer
import ClusterPower.Proofs.Bmc.Simulation

/-!
Twin conversations. They ask twin requests as long as they are given the same answers, pause
alike, and come to twin results. What two such conversations can show of a difference between
them is therefore no more than what twin requests and twin results show of it.
-/

namespace ClusterPower.Conversation

open Http

variable {Left Right LeftNext RightNext : Type} {sameRequest : Request → Request → Prop}
  {sameResult : Left → Right → Prop} {sameNext : LeftNext → RightNext → Prop}
  {left : Conversation Left} {right : Conversation Right}

/-- Answered alike, the two conversations go the same way. -/
inductive Twins (sameRequest : Request → Request → Prop) (sameResult : Left → Right → Prop) :
    Conversation Left → Conversation Right → Prop
  | done {leftResult rightResult} (same : sameResult leftResult rightResult) :
      Twins sameRequest sameResult (.done leftResult) (.done rightResult)
  | ask {leftRequest rightRequest leftNext rightNext}
      (same : sameRequest leftRequest rightRequest)
      (later : ∀ answer, Twins sameRequest sameResult (leftNext answer) (rightNext answer)) :
      Twins sameRequest sameResult (.ask leftRequest leftNext) (.ask rightRequest rightNext)
  | pause {seconds leftNext rightNext}
      (later : Twins sameRequest sameResult leftNext rightNext) :
      Twins sameRequest sameResult (.pause seconds leftNext) (.pause seconds rightNext)

theorem Twins.bind {leftFollowing : Left → Conversation LeftNext}
    {rightFollowing : Right → Conversation RightNext}
    (twins : Twins sameRequest sameResult left right)
    (following : ∀ leftResult rightResult, sameResult leftResult rightResult →
      Twins sameRequest sameNext (leftFollowing leftResult) (rightFollowing rightResult)) :
    Twins sameRequest sameNext (left.bind leftFollowing) (right.bind rightFollowing) := by
  induction twins with
  | done same => exact following _ _ same
  | ask same _ induction => exact .ask same induction
  | pause _ induction => exact .pause induction

/-! ## Runs with the same answers -/

def answersOf (events : List Event) : List Answer :=
  events.filterMap Event.answer?

/-- As far as both go, the two courses of events bring the same answers. -/
def SameAnswers (leftEvents rightEvents : List Event) : Prop :=
  answersOf leftEvents <+: answersOf rightEvents ∨ answersOf rightEvents <+: answersOf leftEvents

theorem SameAnswers.of_asked {leftRequest rightRequest : Request} {leftAnswer rightAnswer : Answer}
    {leftEvents rightEvents : List Event}
    (same : SameAnswers (.asked leftRequest leftAnswer :: leftEvents)
      (.asked rightRequest rightAnswer :: rightEvents)) :
    leftAnswer = rightAnswer ∧ SameAnswers leftEvents rightEvents := by
  simp only [SameAnswers, answersOf, List.filterMap_cons, Event.answer?,
    List.cons_prefix_cons] at same
  rcases same with ⟨equal, rest⟩ | ⟨equal, rest⟩
  · exact ⟨equal, Or.inl rest⟩
  · exact ⟨equal.symm, Or.inr rest⟩

theorem Twins.agree {leftEvents rightEvents : List Event} {leftResult : Left}
    {rightResult : Right} (twins : Twins sameRequest sameResult left right)
    (leftGoes : left.Goes leftEvents leftResult) (rightGoes : right.Goes rightEvents rightResult)
    (same : SameAnswers leftEvents rightEvents) :
    List.Forall₂ sameRequest (requestsOf leftEvents) (requestsOf rightEvents) ∧
      sameResult leftResult rightResult := by
  induction twins generalizing leftEvents rightEvents with
  | done results =>
      rcases leftGoes with ⟨rfl, rfl⟩
      rcases rightGoes with ⟨rfl, rfl⟩
      exact ⟨.nil, results⟩
  | ask requests _ induction =>
      rcases leftGoes with ⟨answer, leftLater, rfl, leftGoes⟩
      rcases rightGoes with ⟨_, rightLater, rfl, rightGoes⟩
      rcases same.of_asked with ⟨rfl, rest⟩
      have agreed := induction answer leftGoes rightGoes rest
      exact ⟨.cons requests agreed.1, agreed.2⟩
  | pause _ induction =>
      rcases leftGoes with ⟨leftLater, rfl, leftGoes⟩
      rcases rightGoes with ⟨rightLater, rfl, rightGoes⟩
      have rest : SameAnswers leftLater rightLater := same
      have agreed := induction leftGoes rightGoes rest
      exact agreed

end ClusterPower.Conversation
