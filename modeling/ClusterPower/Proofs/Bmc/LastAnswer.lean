import ClusterPower.Proofs.Bmc.Exchange
import ClusterPower.Proofs.Ending

/-!
Outcomes and last answers. Whatever was asked before, the outcome of a command is the one
that the answer to its last request leads to: a refusal is reported under its own status, and
a command that succeeds has been answered well.
-/

namespace ClusterPower

namespace Conversation

variable {Result Next : Type} {agrees : Option Http.Answer → Result → Prop}
  {last : Option Http.Answer} {conversation : Conversation Result}

/-! ## Last answers -/

def Event.answer? : Event → Option Http.Answer
  | asked _ answer => some answer
  | paused _ => none

def lastAnswer? (events : List Event) : Option Http.Answer :=
  (events.filterMap Event.answer?).getLast?

theorem lastAnswer?_asked (request : Http.Request) (answer : Http.Answer)
    (events : List Event) :
    lastAnswer? (.asked request answer :: events) = (lastAnswer? events).or (some answer) := by
  simp only [lastAnswer?, List.filterMap_cons, Event.answer?, List.getLast?_cons]
  cases (events.filterMap Event.answer?).getLast? <;> rfl

theorem lastAnswer?_paused (seconds : Nat) (events : List Event) :
    lastAnswer? (.paused seconds :: events) = lastAnswer? events := by
  simp [lastAnswer?, Event.answer?]

/-- However a conversation goes on, its result agrees with the last answer before it. -/
def Closes (agrees : Option Http.Answer → Result → Prop) :
    Option Http.Answer → Conversation Result → Prop
  | last, .done result => agrees last result
  | _, .ask _ next => ∀ answer, Closes agrees (some answer) (next answer)
  | last, .pause _ next => Closes agrees last next

theorem closes_bind {following : Result → Conversation Next}
    {fits : Option Http.Answer → Next → Prop} (closes : conversation.Closes agrees last)
    (rest : ∀ last result, agrees last result → (following result).Closes fits last) :
    (conversation.bind following).Closes fits last := by
  induction conversation generalizing last with
  | done result => exact rest last result closes
  | ask request next induction => exact fun answer => induction answer (closes answer)
  | pause seconds next induction => exact induction closes

theorem Closes.agrees_last {events : List Event} {result : Result}
    (closes : conversation.Closes agrees last) (goes : conversation.Goes events result) :
    agrees ((lastAnswer? events).or last) result := by
  induction conversation generalizing last events with
  | done ending =>
      rcases goes with ⟨rfl, rfl⟩
      exact closes
  | ask request next induction =>
      rcases goes with ⟨answer, later, rfl, goes⟩
      rw [lastAnswer?_asked, Option.or_assoc, Option.some_or]
      exact induction answer (closes answer) goes
  | pause seconds next induction =>
      rcases goes with ⟨later, rfl, goes⟩
      rw [lastAnswer?_paused]
      exact induction closes goes

end Conversation

namespace Gateway

open Conversation Http

variable {gateway : Gateway} {target : Target} {last : Option Answer} {outcome : Outcome}

/-! ## Outcomes that agree -/

/-- How the outcome of a command for a target agrees with the answer to its last request, if
there was one. -/
inductive Agrees (gateway : Gateway) (target : Target) (last : Option Answer) :
    Outcome → Prop
  | succeeded {reply outcome} (answered : last = some (.reply reply))
      (good : reply.status < 400) (code : outcome.code = 0) (own : outcome.target = target) :
      Agrees gateway target last outcome
  | refused {reply} (answered : last = some (.reply reply)) (bad : 400 ≤ reply.status) :
      Agrees gateway target last (refused target reply)
  | failed (message : String)
      (unrefused : ∀ reply, last = some (.reply reply) → reply.status < 400) :
      Agrees gateway target last (.failed target message)
  | simulated (simulates : gateway.simulation = true) (unasked : last = none) :
      Agrees gateway target last (.simulated target)

namespace Agrees

theorem of_not_accepted {answer : Answer} (refuses : ¬Accepted answer) :
    Agrees gateway target (some answer) (concluded target answer) := by
  cases answer with
  | unreachable => exact .failed _ fun _ same => by cases same
  | truncated => exact .failed _ fun _ same => by cases same
  | reply reply =>
      have bad : ¬reply.status < 400 := fun good => refuses ⟨reply, rfl, good⟩
      rw [concluded, if_neg bad]
      exact .refused rfl (Nat.le_of_not_lt bad)

variable (agrees : Agrees gateway target last outcome)

include agrees

theorem target_eq : outcome.target = target := by
  cases agrees with
  | succeeded _ _ _ own => exact own
  | refused | failed | simulated => rfl

theorem code_cases : outcome.code = 0 ∨ outcome.code = -1 ∨ 400 ≤ outcome.code := by
  cases agrees with
  | succeeded _ _ code => exact Or.inl code
  | refused _ bad => exact Or.inr (Or.inr (Int.ofNat_le.mpr bad))
  | failed => exact Or.inr (Or.inl rfl)
  | simulated => exact Or.inl rfl

theorem code_eq_iff {code : Int} (refusal : 400 ≤ code) :
    outcome.code = code ↔ ∃ reply, last = some (.reply reply) ∧ (reply.status : Int) = code := by
  cases agrees with
  | @succeeded reply _ answered good succeeds =>
      constructor
      · intro same
        omega
      · rintro ⟨other, answers, same⟩
        cases answered.symm.trans answers
        omega
  | @refused reply answered bad =>
      constructor
      · exact fun same => ⟨reply, answered, same⟩
      · rintro ⟨other, answers, same⟩
        cases answered.symm.trans answers
        exact same
  | failed message unrefused =>
      constructor
      · intro same
        have here : (Outcome.failed target message).code = -1 := rfl
        omega
      · rintro ⟨reply, answers, same⟩
        have good := unrefused reply answers
        omega
  | simulated _ unasked =>
      constructor
      · intro same
        have fine : (Outcome.simulated target).code = 0 := rfl
        omega
      · rintro ⟨reply, answers, _⟩
        cases unasked.symm.trans answers

theorem message_eq {reply : Reply} (answers : last = some (.reply reply))
    (bad : 400 ≤ reply.status) :
    outcome.message =
      Bmc.refusalMessage target reply.status reply.contentType reply.body := by
  cases agrees with
  | succeeded answered good =>
      cases answered.symm.trans answers
      omega
  | refused answered =>
      cases answered.symm.trans answers
      rfl
  | failed message unrefused =>
      have good := unrefused reply answers
      omega
  | simulated _ unasked => cases unasked.symm.trans answers

theorem answered_of_isOk (live : gateway.simulation = false) (succeeds : outcome.code = 0) :
    ∃ reply, last = some (.reply reply) ∧ reply.status < 400 := by
  cases agrees with
  | @succeeded reply _ answered good => exact ⟨reply, answered, good⟩
  | @refused reply _ bad =>
      have code : (Gateway.refused target reply).code = (reply.status : Int) := rfl
      omega
  | failed => cases succeeds
  | simulated simulates => cases live.symm.trans simulates

theorem state_of_code_ne (fails : outcome.code ≠ 0) : outcome.state = "Unknown" := by
  cases agrees with
  | succeeded _ _ code => exact absurd code fails
  | refused | failed => rfl
  | simulated => exact absurd rfl fails

end Agrees

/-! ## Commands -/

theorem closes_exchange {request : Request} {next : Reply → Conversation Outcome}
    (closes : ∀ reply, reply.status < 400 →
      (next reply).Closes (Agrees gateway target) (some (.reply reply))) :
    (exchange target request next).Closes (Agrees gateway target) last := by
  intro answer
  dsimp only
  by_cases accepted : Accepted answer
  · rcases accepted with ⟨reply, rfl, good⟩
    rw [usable_of_lt good]
    exact closes reply good
  · rw [usable_of_not_accepted accepted]
    exact .of_not_accepted accepted

theorem closes_succeeded {reply : Reply} (good : reply.status < 400) (message : String) :
    (Conversation.done (Outcome.succeeded target message)).Closes (Agrees gateway target)
      (some (.reply reply)) :=
  .succeeded rfl good rfl rfl

theorem agrees_polled {reply : Reply} (good : reply.status < 400) :
    Agrees gateway target (some (.reply reply)) (polled target reply.body) := by
  have unrefused : ∀ other, some (Answer.reply reply) = some (.reply other) →
      other.status < 400 := by
    rintro other same
    cases same
    exact good
  unfold polled
  split
  · exact .failed "" unrefused
  · split
    · exact .succeeded rfl good rfl rfl
    · exact .failed _ unrefused

variable (gateway target)

theorem closes_readState :
    (gateway.readState target).Closes (Agrees gateway target) none := by
  unfold readState
  split
  · next simulates => exact .simulated simulates rfl
  · exact closes_exchange fun _ good => agrees_polled good

theorem closes_postChange (body : Json) (sessionToken : Option Bytes) :
    (postChange gateway target body sessionToken).Closes (Agrees gateway target) last :=
  closes_exchange fun _ good => closes_succeeded good ""

theorem closes_sendChange (body : Json) :
    (sendChange gateway target body).Closes (Agrees gateway target) last := by
  unfold sendChange
  split
  · exact closes_exchange fun _ _ => closes_postChange gateway target body _
  · exact closes_postChange gateway target body none

theorem closes_change (transition : Transition) :
    (gateway.change transition target).Closes (Agrees gateway target) none := by
  have unasked : ∀ reply, none = some (Answer.reply reply) → reply.status < 400 := by
    intro reply same
    cases same
  unfold change
  split
  · exact .failed _ unasked
  · split
    · exact .failed _ unasked
    · split
      · next simulates => exact .simulated simulates rfl
      · next sends =>
        have live : gateway.simulation = false := by simpa using sends
        split
        · refine closes_bind (gateway.closes_readState target) fun last probe agrees => ?_
          split
          · next shown =>
            have succeeds : probe.code = 0 := by
              simp only [Bool.and_eq_true, Outcome.isOk, beq_iff_eq] at shown
              exact shown.1
            rcases agrees.answered_of_isOk live succeeds with ⟨reply, answered, good⟩
            exact .succeeded answered good rfl rfl
          · exact closes_sendChange gateway target _
        · exact closes_sendChange gateway target _

theorem closes_readCaps : (gateway.readCaps target).Closes (Agrees gateway target) none := by
  unfold readCaps
  split
  · next simulates => exact .simulated simulates rfl
  · exact closes_exchange fun _ good => closes_succeeded good _

theorem closes_patchCaps (body : Bytes) (ifMatch : Option String) :
    (patchCaps gateway target body ifMatch).Closes (Agrees gateway target) last :=
  closes_exchange fun _ good => closes_succeeded good _

theorem closes_writeTagged (body : Bytes) :
    (gateway.writeTagged target body).Closes (Agrees gateway target) none := by
  unfold writeTagged
  split
  · next simulates => exact .simulated simulates rfl
  · next sends =>
    have live : gateway.simulation = false := by simpa using sends
    split
    · exact closes_patchCaps gateway target body none
    · refine closes_bind (gateway.closes_readCaps target) fun last current agrees => ?_
      split
      · next read =>
        rcases agrees.answered_of_isOk live (beq_iff_eq.mp read) with ⟨reply, rfl, good⟩
        split
        · exact closes_patchCaps gateway target body _
        · refine .failed _ fun other same => ?_
          cases same
          exact good
      · exact agrees

theorem closes_postCaps (body : Bytes) :
    (gateway.postCaps target body).Closes (Agrees gateway target) none := by
  unfold postCaps
  split
  · next simulates => exact .simulated simulates rfl
  · exact closes_exchange fun _ good => closes_succeeded good ""

theorem closes_call (command : Command) :
    (gateway.call command target).Closes (Agrees gateway target) none := by
  unfold call
  split
  · exact .failed _ fun _ same => by cases same
  · cases command with
    | readState => exact gateway.closes_readState target
    | change transition => exact gateway.closes_change target transition
    | readCaps => exact gateway.closes_readCaps target
    | writeCaps body =>
        dsimp only
        unfold writeCaps
        split
        · exact gateway.closes_postCaps target body
        · exact gateway.closes_writeTagged target body
        · exact gateway.closes_writeTagged target body

/-- A command ends with an outcome for its target, of code 0, -1 or at least 400. It has a
code of 400 or more exactly if that is the status of the reply to its last request, and then
the message is the one of that reply. A command that succeeds, and is not simulated, has had
a reply below 400 to its last request. One that does not succeed knows no state. -/
theorem outcome_agrees_with_last_answer {State : Type} (command : Command)
    (world : World State) (state : State) :
    let course := (gateway.call command target).trace world state
    let last := lastAnswer? course.1
    let outcome := course.2.1
    outcome.target = target ∧
    (outcome.code = 0 ∨ outcome.code = -1 ∨ 400 ≤ outcome.code) ∧
    (∀ code : Int, 400 ≤ code →
      (outcome.code = code ↔
        ∃ reply, last = some (.reply reply) ∧ (reply.status : Int) = code)) ∧
    (∀ reply, last = some (.reply reply) → 400 ≤ reply.status →
      outcome.message =
        Bmc.refusalMessage target reply.status reply.contentType reply.body) ∧
    (gateway.simulation = false → outcome.code = 0 →
      ∃ reply, last = some (.reply reply) ∧ reply.status < 400) ∧
    (outcome.code ≠ 0 → outcome.state = "Unknown") := by
  intro course last outcome
  have goes := goes_trace world (gateway.call command target) state
  have agrees : Agrees gateway target last outcome := by
    have ends := (gateway.closes_call target command).agrees_last goes
    rwa [Option.or_none] at ends
  exact ⟨agrees.target_eq, agrees.code_cases, fun _ => agrees.code_eq_iff,
    fun _ => agrees.message_eq, agrees.answered_of_isOk, agrees.state_of_code_ne⟩

/-- A login that is refused is what the command comes to, though the outlet answered the
question before it; an outlet that is found off already has answered last. -/
theorem refused_login_is_the_outcome :
    let gateway : Gateway := { settings := {}, simulation := false }
    let outlet : Target :=
      { hostname := "x0m0p0v7", host := "pdu", resource := .outlet
        resetTokens := ["Off", "PushPowerButton"], traits := { outletMaker := some .hpe } }
    let off : Answer := .reply ⟨200, [], Text.utf8 "\x7b\"PowerState\":\"Off\"\x7d"⟩
    let refusal : Reply := ⟨401, [("content-type", Text.utf8 "text/plain")], Text.utf8 "no"⟩
    let refused := (gateway.call (.change .on) outlet).trace scripted [off, .reply refusal]
    let polled := (gateway.call .readState outlet).trace scripted [off]
    (400 ≤ refusal.status ∧ refused.2.1.code = 401 ∧ refused.2.1.state = "Unknown" ∧
      refused.2.1.message = Bmc.refusalMessage outlet 401 "text/plain" (Text.utf8 "no")) ∧
    (polled.2.1.code = 0 ∧
      ∃ reply, lastAnswer? polled.1 = some (.reply reply) ∧ reply.status < 400) := by
  intro gateway outlet off refusal refused polled
  have answered : lastAnswer? refused.1 = some (.reply refusal) := by decide +kernel
  have bad : 400 ≤ refusal.status := by decide
  have type : refusal.contentType = "text/plain" := by decide +kernel
  have fine : polled.2.1.code = 0 := by decide +kernel
  rcases outcome_agrees_with_last_answer gateway outlet (.change .on) scripted
    [off, .reply refusal] with ⟨_, _, code, message, _, unknown⟩
  have coded : refused.2.1.code = 401 := (code 401 (by decide)).mpr ⟨refusal, answered, rfl⟩
  have failed : refused.2.1.code ≠ 0 := by
    rw [coded]
    decide
  have said := message refusal answered bad
  rw [type] at said
  rcases outcome_agrees_with_last_answer gateway outlet .readState scripted [off] with
    ⟨_, _, _, _, good, _⟩
  exact ⟨⟨bad, coded, unknown failed, said⟩, fine, good rfl fine⟩

end Gateway

end ClusterPower
