import ClusterPower.Cap.Request
import ClusterPower.Proofs.Bmc.OwnTarget
import ClusterPower.Proofs.Bmc.PowerChange
import ClusterPower.Proofs.Twins

/-!
Passwords stay out of sight. Of two targets that differ in their passwords alone, everything
that is told to people is the same, whatever is done with them, as long as their BMCs answer
alike. The passwords go into nothing but the credentials of a request and the body of the login
that opens a session.
-/

namespace ClusterPower

namespace Target

variable (target : Target) (password : String)

def withPassword : Target :=
  { target with password }

@[simp] theorem withPassword_xname : (target.withPassword password).xname = target.xname := rfl

@[simp] theorem withPassword_host : (target.withPassword password).host = target.host := rfl

@[simp] theorem withPassword_resetTokens :
    (target.withPassword password).resetTokens = target.resetTokens := rfl

@[simp] theorem withPassword_resource :
    (target.withPassword password).resource = target.resource := rfl

@[simp] theorem withPassword_traits : (target.withPassword password).traits = target.traits := rfl

@[simp] theorem withPassword_description :
    (target.withPassword password).description = target.description := rfl

end Target

/-! ## Power cap requests -/

namespace Cap

variable (target : Target) (password : String)

theorem firstFault?_withPassword (earlier : List String) (defined : List Defined) :
    firstFault? (target.withPassword password) earlier defined =
      firstFault? target earlier defined := by
  induction defined generalizing earlier with
  | nil => rfl
  | cons first rest induction =>
      have same : fault? (target.withPassword password) earlier first =
          fault? target earlier first := rfl
      rw [firstFault?, firstFault?, same, induction]

theorem planDefined?_withPassword (defined : List Defined) :
    planDefined? (target.withPassword password) defined =
      (planDefined? target defined).map fun plan =>
        { plan with target := plan.target.withPassword password } := by
  cases defined with
  | nil => rfl
  | cons first rest =>
      unfold planDefined?
      rw [Target.withPassword_traits]
      cases target.traits.capStyle with
      | indexed | posted | members => rfl

theorem command_withPassword (settings : List CapSetting) :
    command (target.withPassword password) settings =
      (command target settings).map (Option.map fun call =>
        (call.1.withPassword password, call.2)) := by
  have same : definedSettings (target.withPassword password) settings =
      definedSettings target settings := rfl
  unfold command plan
  simp only [same, firstFault?_withPassword, planDefined?_withPassword]
  cases firstFault? target [] (definedSettings target settings) with
  | some error => rfl
  | none =>
      cases planDefined? target (definedSettings target settings) with
      | none => rfl
      | some plan =>
          dsimp only [Option.map_some]
          cases plan.payload.body with
          | error error => rfl
          | ok body =>
              dsimp only
              cases Command.writeCaps? body with
              | none => rfl
              | some command => rfl

end Cap

namespace Gateway

open Conversation Http

variable (gateway : Gateway) (target : Target) (password : String)

/-! ## What a password may change -/

/-- The requests differ at most in the passwords that authorize them and, if they are the logins
of the two targets, in their bodies. -/
structure SameButPassword (left right : Request) : Prop where
  method : right.method = left.method
  address : right.address = left.address
  user : right.user = left.user
  sendsJson : right.sendsJson = left.sendsJson
  ifMatch : right.ifMatch = left.ifMatch
  sessionToken : right.sessionToken = left.sessionToken
  body : right.body = left.body ∨
    left = loginRequest gateway target ∧
      right = loginRequest gateway (target.withPassword password)

/-- The outcomes are those of the two targets and say the same of them. -/
structure SameOutcome (left right : Outcome) : Prop where
  own : left.target = target
  other : right = { left with target := target.withPassword password }

/-- Conversations about the two targets. -/
abbrev SameCourse : Conversation Outcome → Conversation Outcome → Prop :=
  Twins (SameButPassword gateway target password) (SameOutcome target password)

variable {gateway target password}

theorem SameOutcome.isOk_eq {left right : Outcome} (same : SameOutcome target password left right) :
    right.isOk = left.isOk := by
  rw [same.other, Outcome.isOk, Outcome.isOk]

theorem SameOutcome.message_eq {left right : Outcome}
    (same : SameOutcome target password left right) : right.message = left.message := by
  rw [same.other]

theorem SameOutcome.state_eq {left right : Outcome}
    (same : SameOutcome target password left right) : right.state = left.state := by
  rw [same.other]

theorem SameOutcome.text_eq {left right : Outcome}
    (same : SameOutcome target password left right) : right.text = left.text := by
  rw [same.other, Outcome.text, Outcome.text, Target.withPassword_xname, same.own]

theorem SameOutcome.description_eq {left right : Outcome}
    (same : SameOutcome target password left right) : right.description = left.description := by
  rw [same.other, Outcome.description, Outcome.description, Target.withPassword_description,
    same.own]

theorem sameCourse_done {left : Outcome} (own : left.target = target) :
    SameCourse gateway target password (.done left)
      (.done { left with target := target.withPassword password }) :=
  .done ⟨own, rfl⟩

/-! ## Single requests -/

theorem sameCourse_exchange {left right : Request}
    {leftNext rightNext : Reply → Conversation Outcome}
    (requests : SameButPassword gateway target password left right)
    (later : ∀ reply, SameCourse gateway target password (leftNext reply) (rightNext reply)) :
    SameCourse gateway target password (exchange target left leftNext)
      (exchange (target.withPassword password) right rightNext) := by
  apply Twins.ask requests
  intro answer
  cases answer with
  | unreachable => exact sameCourse_done rfl
  | truncated => exact sameCourse_done rfl
  | reply reply =>
      by_cases bad : 400 ≤ reply.status
      · simp only [usable, if_pos bad]
        exact sameCourse_done rfl
      · simp only [usable, if_neg bad]
        exact later reply

theorem sameButPassword_request (method : Method) (path : String) :
    SameButPassword gateway target password (gateway.request target method path)
      (gateway.request (target.withPassword password) method path) :=
  ⟨rfl, rfl, rfl, rfl, rfl, rfl, Or.inl rfl⟩

theorem sameButPassword_jsonRequest (method : Method) (path : String) (body : Bytes)
    (ifMatch : Option String) (sessionToken : Option Bytes) :
    SameButPassword gateway target password
      { gateway.jsonRequest target method path body with ifMatch, sessionToken }
      { gateway.jsonRequest (target.withPassword password) method path body with
        ifMatch, sessionToken } :=
  ⟨rfl, rfl, rfl, rfl, rfl, rfl, Or.inl rfl⟩

theorem sameButPassword_loginRequest :
    SameButPassword gateway target password (loginRequest gateway target)
      (loginRequest gateway (target.withPassword password)) :=
  ⟨rfl, rfl, rfl, rfl, rfl, rfl, Or.inr ⟨rfl, rfl⟩⟩

/-! ## Power states -/

theorem polled_withPassword (body : Bytes) :
    polled (target.withPassword password) body =
      { polled target body with target := target.withPassword password } := by
  unfold polled
  rw [Target.withPassword_resource]
  split
  · rfl
  · split
    · rfl
    · rfl

theorem sameCourse_readState :
    SameCourse gateway target password (gateway.readState target)
      (gateway.readState (target.withPassword password)) := by
  unfold readState
  split
  · exact sameCourse_done rfl
  · apply sameCourse_exchange (sameButPassword_request _ _)
    intro reply
    rw [polled_withPassword]
    exact sameCourse_done (polled_target reply.body)

/-! ## Power transitions -/

theorem sameCourse_postChange (body : Json) (sessionToken : Option Bytes) :
    SameCourse gateway target password (gateway.postChange target body sessionToken)
      (gateway.postChange (target.withPassword password) body sessionToken) := by
  apply sameCourse_exchange (sameButPassword_jsonRequest _ _ _ none sessionToken)
  exact fun reply => sameCourse_done rfl

theorem sameCourse_sendChange (body : Json) :
    SameCourse gateway target password (gateway.sendChange target body)
      (gateway.sendChange (target.withPassword password) body) := by
  unfold sendChange
  rw [Target.withPassword_traits]
  split
  · apply sameCourse_exchange sameButPassword_loginRequest
    exact fun reply => sameCourse_postChange _ _
  · exact sameCourse_postChange _ _

theorem sameCourse_change (transition : Transition) :
    SameCourse gateway target password (gateway.change transition target)
      (gateway.change transition (target.withPassword password)) := by
  have sameBody (token : String) :
      changeBody? (target.withPassword password) token = changeBody? target token := rfl
  unfold change
  rw [Target.withPassword_resetTokens]
  cases gateway.settings.resetToken transition target.resetTokens with
  | error error => exact sameCourse_done rfl
  | ok token =>
      simp only [sameBody]
      cases changeBody? target token with
      | none => exact sameCourse_done rfl
      | some body =>
          dsimp only
          split
          · exact sameCourse_done rfl
          · split
            · apply sameCourse_readState.bind
              intro probe other same
              rw [same.isOk_eq, same.state_eq]
              split
              · exact sameCourse_done rfl
              · exact sameCourse_sendChange body
            · exact sameCourse_sendChange body

/-! ## Power caps -/

theorem sameCourse_readCaps :
    SameCourse gateway target password (gateway.readCaps target)
      (gateway.readCaps (target.withPassword password)) := by
  unfold readCaps
  split
  · exact sameCourse_done rfl
  · apply sameCourse_exchange (sameButPassword_request _ _)
    exact fun reply => sameCourse_done rfl

theorem sameCourse_patchCaps (body : Bytes) (ifMatch : Option String) :
    SameCourse gateway target password (gateway.patchCaps target body ifMatch)
      (gateway.patchCaps (target.withPassword password) body ifMatch) := by
  apply sameCourse_exchange (sameButPassword_jsonRequest _ _ _ ifMatch none)
  exact fun reply => sameCourse_done rfl

theorem sameCourse_writeTagged (body : Bytes) :
    SameCourse gateway target password (gateway.writeTagged target body)
      (gateway.writeTagged (target.withPassword password) body) := by
  have samePath : powerPath (target.withPassword password) = powerPath target := rfl
  unfold writeTagged
  rw [samePath]
  split
  · exact sameCourse_done rfl
  · split
    · exact sameCourse_patchCaps body none
    · apply sameCourse_readCaps.bind
      intro current other same
      rw [same.isOk_eq, same.message_eq]
      split
      · split
        · exact sameCourse_patchCaps body _
        · exact sameCourse_done rfl
      · exact .done same

theorem sameCourse_postCaps (body : Bytes) :
    SameCourse gateway target password (gateway.postCaps target body)
      (gateway.postCaps (target.withPassword password) body) := by
  unfold postCaps
  split
  · exact sameCourse_done rfl
  · apply sameCourse_exchange (sameButPassword_jsonRequest _ _ _ none none)
    exact fun reply => sameCourse_done rfl

/-! ## Commands -/

theorem sameCourse_call (command : Command) :
    SameCourse gateway target password (gateway.call command target)
      (gateway.call command (target.withPassword password)) := by
  unfold call
  rw [Target.withPassword_host]
  split
  · exact sameCourse_done rfl
  · cases command with
    | readState => exact sameCourse_readState
    | change transition => exact sameCourse_change transition
    | readCaps => exact sameCourse_readCaps
    | writeCaps body =>
        unfold writeCaps
        rw [Target.withPassword_traits]
        cases target.traits.capStyle with
        | posted => exact sameCourse_postCaps body
        | indexed | members => exact sameCourse_writeTagged body

/-- Two targets that differ in their passwords alone are described alike and take the same
commands. If their BMCs answer alike, a command has the same outcome for both in all that is
reported of it, and its requests differ in nothing but the password that authorizes them and the
body of a login. -/
theorem password_shows_in_credentials_alone {State Mirror : Type} (gateway : Gateway)
    (command : Command) (target : Target) (password : String) (world : World State)
    (state : State) (mirror : World Mirror) (start : Mirror) :
    let twin := target.withPassword password
    let course := (gateway.call command target).trace world state
    let other := (gateway.call command twin).trace mirror start
    twin.description = target.description ∧
    (∀ settings, (Cap.command twin settings).map (Option.map Prod.snd) =
      (Cap.command target settings).map (Option.map Prod.snd)) ∧
    (SameAnswers course.1 other.1 →
      other.2.1.code = course.2.1.code ∧ other.2.1.message = course.2.1.message ∧
      other.2.1.state = course.2.1.state ∧ other.2.1.text = course.2.1.text ∧
      other.2.1.description = course.2.1.description ∧
      List.Forall₂ (SameButPassword gateway target password)
        (requestsOf course.1) (requestsOf other.1)) := by
  intro twin course other
  refine ⟨Target.withPassword_description target password, fun settings => ?_, fun answers => ?_⟩
  · rw [Cap.command_withPassword]
    cases Cap.command target settings with
    | error error => rfl
    | ok call => cases call <;> rfl
  · have goes := goes_trace world (gateway.call command target) state
    have otherGoes := goes_trace mirror (gateway.call command twin) start
    rcases (sameCourse_call command).agree goes otherGoes answers with ⟨requests, outcomes⟩
    have code : other.2.1.code = course.2.1.code := by rw [outcomes.other]
    exact ⟨code, outcomes.message_eq, outcomes.state_eq, outcomes.text_eq,
      outcomes.description_eq, requests⟩

theorem login_alone_shows_the_password :
    let gateway : Gateway := { settings := {}, simulation := false }
    let outlet : Target :=
      { xname := "x0m0p0v7", hostname := "x0m0p0v7", host := "pdu", user := "root"
        password := "initial0", resetTokens := ["Off"], traits := { outletMaker := some .hpe } }
    let answers : List Answer :=
      [.reply ⟨201, [("x-auth-token", Text.utf8 "key")], []⟩, .reply ⟨503, [], []⟩]
    let twin := outlet.withPassword "hunter2"
    let course := (gateway.call (.change .off) outlet).trace scripted answers
    let other := (gateway.call (.change .off) twin).trace scripted answers
    SameAnswers course.1 other.1 ∧
    (requestsOf course.1).map (·.body) ≠ (requestsOf other.1).map (·.body) ∧
    other.2.1.text = course.2.1.text ∧ other.2.1.code = 503 ∧
    List.Forall₂ (SameButPassword gateway outlet "hunter2")
      (requestsOf course.1) (requestsOf other.1) := by
  intro gateway outlet answers twin course other
  have same : SameAnswers course.1 other.1 := by
    apply Or.inl
    decide +kernel
  have shown := (password_shows_in_credentials_alone gateway (.change .off) outlet "hunter2"
    scripted answers scripted answers).2.2 same
  exact ⟨same, by decide +kernel, shown.2.2.2.1, by decide +kernel, shown.2.2.2.2.2⟩

end Gateway

end ClusterPower
