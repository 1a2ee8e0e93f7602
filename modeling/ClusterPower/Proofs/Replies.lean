import ClusterPower.Proofs.History

/-!
Conversations that are answered by someone who goes by nothing but what has been asked so far.
Such a conversation goes one way only: it asks what it asks, and ends as it ends, when it is held
in the world of its answers (`Leads.run_eq`).
-/

namespace ClusterPower.Conversation

variable {Result : Type}

/-- A request with its answer. -/
abbrev Exchange := Http.Request × Http.Answer

/-- What may be left of a conversation behind some exchanges. -/
inductive Leads (conversation : Conversation Result) :
    List Exchange → Conversation Result → Prop
  | begin : Leads conversation [] conversation
  | ask {exchanges request next} (leads : Leads conversation exchanges (.ask request next))
      (answer : Http.Answer) :
      Leads conversation (exchanges ++ [(request, answer)]) (next answer)
  | pause {exchanges seconds next}
      (leads : Leads conversation exchanges (.pause seconds next)) :
      Leads conversation exchanges next

/-! ## Answers that go by the requests -/

/-- The answer to the last of some requests. -/
abbrev Behaviour := List Http.Request → Http.Answer

namespace Behaviour

def after (behaviour : Behaviour) (past : List Http.Request) : Behaviour :=
  fun requests => behaviour (past ++ requests)

def world (behaviour : Behaviour) : World (List Http.Request) :=
  fun request past => (behaviour (past ++ [request]), past ++ [request])

/-- Every request has been answered as the behaviour has it. -/
def Gives (behaviour : Behaviour) (exchanges : List Exchange) : Prop :=
  ∀ before request answer behind, exchanges = before ++ (request, answer) :: behind →
    answer = behaviour (before.map (·.1) ++ [request])

variable {behaviour : Behaviour} {front behind : List Exchange}

theorem Gives.of_append_left (gives : behaviour.Gives (front ++ behind)) :
    behaviour.Gives front := by
  intro before request answer rest split
  apply gives before request answer (rest ++ behind)
  rw [split, List.append_assoc, List.cons_append]

theorem Gives.of_append_right (gives : behaviour.Gives (front ++ behind)) :
    (behaviour.after (front.map (·.1))).Gives behind := by
  intro before request answer rest split
  have given := gives (front ++ before) request answer rest (by rw [split, List.append_assoc])
  rw [List.map_append, List.append_assoc] at given
  exact given

/-- Every request has an answer of its own, whatever has been asked before it. -/
def Steady (behaviour : Behaviour) : Prop :=
  ∀ past request, behaviour (past ++ [request]) = behaviour [request]

namespace Steady

variable {exchanges others : List Exchange} {past : List Http.Request}

theorem gives_iff (steady : behaviour.Steady) :
    behaviour.Gives exchanges ↔ ∀ exchange ∈ exchanges, exchange.2 = behaviour [exchange.1] := by
  constructor
  · intro gives exchange member
    rcases List.append_of_mem member with ⟨before, behind, split⟩
    exact (gives before exchange.1 exchange.2 behind split).trans (steady _ _)
  · intro own before request answer behind split
    rw [steady]
    exact own (request, answer) (split ▸ List.mem_append_cons_self)

theorem after (steady : behaviour.Steady) : (behaviour.after past).Steady := by
  intro more request
  unfold Behaviour.after
  rw [← List.append_assoc, steady, steady]

theorem gives_after_iff (steady : behaviour.Steady) :
    (behaviour.after past).Gives exchanges ↔ behaviour.Gives exchanges := by
  rw [steady.after.gives_iff, steady.gives_iff]
  simp only [Behaviour.after, steady past]

theorem gives_sublist (steady : behaviour.Steady) (gives : behaviour.Gives others)
    (part : exchanges.Sublist others) : behaviour.Gives exchanges :=
  steady.gives_iff.mpr fun exchange member =>
    steady.gives_iff.mp gives exchange (part.subset member)

end Steady

end Behaviour

variable {conversation rest : Conversation Result} {exchanges : List Exchange}
  {behaviour : Behaviour}

theorem Leads.run_eq (leads : conversation.Leads exchanges rest)
    (gives : behaviour.Gives exchanges) :
    conversation.run behaviour.world [] =
      rest.run behaviour.world (exchanges.map (·.1)) := by
  induction leads with
  | begin => rfl
  | @ask exchanges request next leads answer induction =>
      have given := gives exchanges request answer [] rfl
      rw [induction gives.of_append_left, List.map_append, List.map_singleton, run, given]
      rfl
  | pause leads induction => exact induction gives

def Event.exchange? : Event → Option Exchange
  | .asked request answer => some (request, answer)
  | .paused _ => none

theorem Leads.goes {result : Result} {events : List Event}
    (leads : conversation.Leads exchanges rest) (goes : rest.Goes events result) :
    conversation.Leads (exchanges ++ events.filterMap Event.exchange?) (.done result) := by
  induction rest generalizing exchanges events with
  | done ending =>
      rcases goes with ⟨rfl, rfl⟩
      rwa [List.filterMap_nil, List.append_nil]
  | ask request next induction =>
      rcases goes with ⟨answer, later, rfl, goes⟩
      have through := induction answer (leads.ask answer) goes
      rwa [List.append_assoc] at through
  | pause seconds next induction =>
      rcases goes with ⟨later, rfl, goes⟩
      rw [List.filterMap_cons_none rfl]
      exact induction leads.pause goes

end ClusterPower.Conversation
