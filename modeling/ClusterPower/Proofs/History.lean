import ClusterPower.Conversation

/-!
What can happen in a conversation: its events in order together with the result that they lead
to, whatever it is answered.
-/

namespace ClusterPower.Conversation

variable {Result Next State : Type} {events : List Event}

/-- Some answers lead through these events to this result. -/
def Goes : Conversation Result → List Event → Result → Prop
  | .done result, events, ending => events = [] ∧ ending = result
  | .ask request next, events, ending =>
      ∃ answer later, events = .asked request answer :: later ∧ (next answer).Goes later ending
  | .pause seconds next, events, ending =>
      ∃ later, events = .paused seconds :: later ∧ next.Goes later ending

theorem goes_done {result ending : Result} :
    (done result).Goes events ending ↔ events = [] ∧ ending = result := Iff.rfl

theorem goes_ask {request : Http.Request} {next : Http.Answer → Conversation Result}
    {ending : Result} :
    (ask request next).Goes events ending ↔
      ∃ answer later, events = .asked request answer :: later ∧
        (next answer).Goes later ending := Iff.rfl

theorem goes_trace (world : World State) (conversation : Conversation Result) (state : State) :
    conversation.Goes (conversation.trace world state).1
      (conversation.trace world state).2.1 := by
  induction conversation generalizing state with
  | done result => exact ⟨rfl, rfl⟩
  | ask request next induction => exact ⟨_, _, rfl, induction _ _⟩
  | pause seconds next induction => exact ⟨_, rfl, induction _⟩

theorem goes_bind {conversation : Conversation Result}
    {following : Result → Conversation Next} {ending : Next} :
    (conversation.bind following).Goes events ending ↔
      ∃ first middle later, events = first ++ later ∧ conversation.Goes first middle ∧
        (following middle).Goes later ending := by
  induction conversation generalizing events with
  | done result =>
      constructor
      · intro goes
        exact ⟨[], result, events, rfl, ⟨rfl, rfl⟩, goes⟩
      · rintro ⟨_, _, later, rfl, ⟨rfl, rfl⟩, goes⟩
        exact goes
  | ask request next induction =>
      constructor
      · rintro ⟨answer, _, rfl, goes⟩
        rcases (induction answer).mp goes with ⟨first, middle, later, rfl, begins, ends⟩
        exact ⟨_ :: first, middle, later, rfl, ⟨answer, first, rfl, begins⟩, ends⟩
      · rintro ⟨_, middle, later, rfl, ⟨answer, first, rfl, begins⟩, ends⟩
        have joined := (induction answer).mpr ⟨first, middle, later, rfl, begins, ends⟩
        exact ⟨answer, _, rfl, joined⟩
  | pause seconds next induction =>
      constructor
      · rintro ⟨_, rfl, goes⟩
        rcases induction.mp goes with ⟨first, middle, later, rfl, begins, ends⟩
        exact ⟨_ :: first, middle, later, rfl, ⟨first, rfl, begins⟩, ends⟩
      · rintro ⟨_, middle, later, rfl, ⟨first, rfl, begins⟩, ends⟩
        exact ⟨_, rfl, induction.mpr ⟨first, middle, later, rfl, begins, ends⟩⟩

end ClusterPower.Conversation
