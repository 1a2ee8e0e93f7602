import ClusterPower.Conversation
import Mathlib.Data.List.Forall2

/-!
The results that a conversation may end with, whatever it is answered. A statement
about all of them is a statement about every behaviour of the BMCs.
-/

namespace ClusterPower.Conversation

variable {Result Next State : Type}

/-- Some answers lead to this result. -/
def MayEnd : Conversation Result → Result → Prop
  | .done result, ending => ending = result
  | .ask _ next, ending => ∃ answer, (next answer).MayEnd ending
  | .pause _ next, ending => next.MayEnd ending

@[simp] theorem mayEnd_done (result ending : Result) :
    (done result).MayEnd ending ↔ ending = result := Iff.rfl

theorem mayEnd_bind (conversation : Conversation Result)
    (following : Result → Conversation Next) (ending : Next) :
    (conversation.bind following).MayEnd ending ↔
      ∃ middle, conversation.MayEnd middle ∧ (following middle).MayEnd ending := by
  induction conversation with
  | done result => simp [bind]
  | ask request next induction =>
      simp only [bind, MayEnd, induction]
      constructor
      · rintro ⟨answer, middle, first, rest⟩
        exact ⟨middle, ⟨answer, first⟩, rest⟩
      · rintro ⟨middle, ⟨answer, first⟩, rest⟩
        exact ⟨answer, middle, first, rest⟩
  | pause seconds next induction => exact induction

theorem mayEnd_run (world : World State) (conversation : Conversation Result)
    (state : State) : conversation.MayEnd (conversation.run world state).1 := by
  induction conversation generalizing state with
  | done result => rfl
  | ask request next induction => exact ⟨(world request state).1, induction _ _⟩
  | pause seconds next induction => exact induction state

def scripted : World (List Http.Answer) := fun _ answers =>
  (answers.headD .unreachable, answers.tail)

theorem exists_script {conversation : Conversation Result} {result : Result}
    (ends : conversation.MayEnd result) :
    ∃ answers, (conversation.run scripted answers).1 = result := by
  induction conversation with
  | done last => exact ⟨[], ends.symm⟩
  | ask request next induction =>
      rcases ends with ⟨answer, ends⟩
      rcases induction answer ends with ⟨answers, same⟩
      exact ⟨answer :: answers, same⟩
  | pause seconds next induction => exact induction ends

theorem exists_mayEnd (conversation : Conversation Result) :
    ∃ ending, conversation.MayEnd ending :=
  ⟨_, conversation.mayEnd_run (nowhere : World Unit) ()⟩

/-- Every possible result is good. -/
def EndsIn (good : Result → Prop) (conversation : Conversation Result) : Prop :=
  ∀ result, conversation.MayEnd result → good result

section EndsIn

variable {good : Result → Prop} {result : Result} {conversation : Conversation Result}

theorem endsIn_done (holds : good result) : (done result).EndsIn good := by
  intro ending same
  rw [(mayEnd_done result ending).mp same]
  exact holds

theorem EndsIn.imp {better : Result → Prop} (endsIn : conversation.EndsIn good)
    (implies : ∀ result, good result → better result) : conversation.EndsIn better :=
  fun result ends => implies result (endsIn result ends)

theorem endsIn_pause {seconds : Nat} (endsIn : conversation.EndsIn good) :
    (pause seconds conversation).EndsIn good :=
  endsIn

theorem endsIn_bind {first : Conversation Next} {following : Next → Conversation Result}
    (endsIn : ∀ middle, first.MayEnd middle → (following middle).EndsIn good) :
    (first.bind following).EndsIn good := by
  intro result ends
  obtain ⟨middle, begins, rest⟩ := (mayEnd_bind first following result).mp ends
  exact endsIn middle begins result rest

theorem EndsIn.run {world : World State} (endsIn : conversation.EndsIn good) (state : State) :
    good (conversation.run world state).1 :=
  endsIn _ (conversation.mayEnd_run world state)

end EndsIn

/-! ## Many conversations -/

/-- One possible result for each item, in any order. -/
def Answers {Item : Type} (ask : Item → Conversation Result) (items : List Item)
    (results : List Result) : Prop :=
  ∃ inOrder, List.Forall₂ (fun item result => (ask item).MayEnd result) items inOrder ∧
    inOrder.Perm results

variable {Item Key : Type} {ask : Item → Conversation Result} {items : List Item}
  {results : List Result}

theorem Answers.perm_map (key : Item → Key) (found : Result → Key)
    (answers : Answers ask items results)
    (same : ∀ item ∈ items, ∀ result, (ask item).MayEnd result → found result = key item) :
    (results.map found).Perm (items.map key) := by
  rcases answers with ⟨inOrder, all, perm⟩
  have equal : inOrder.map found = items.map key := by
    clear perm
    induction all with
    | nil => rfl
    | cons ends _ induction =>
        rw [List.map_cons, List.map_cons, same _ List.mem_cons_self _ ends,
          induction fun item member => same item (List.mem_cons_of_mem _ member)]
  rw [← equal]
  exact (perm.map found).symm

theorem exists_scripts (all : List.Forall₂ (fun item result => (ask item).MayEnd result) items
      results) :
    ∃ starts : List (Item × List Http.Answer), starts.map (·.1) = items ∧
      starts.map (fun start => ((ask start.1).run scripted start.2).1) = results := by
  induction all with
  | nil => exact ⟨[], rfl, rfl⟩
  | cons ends _ induction =>
      rcases exists_script ends with ⟨answers, same⟩
      rcases induction with ⟨starts, rfl, rfl⟩
      exact ⟨(_, answers) :: starts, rfl, by rw [List.map_cons, same]⟩

end ClusterPower.Conversation
