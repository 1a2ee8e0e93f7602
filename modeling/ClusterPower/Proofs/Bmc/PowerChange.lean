import ClusterPower.Proofs.Bmc.Exchange
import ClusterPower.Proofs.Ending
import ClusterPower.Proofs.ResetToken

/-!
The requests of a power transition. There are at most three, in this order: the state is asked
for before the power button is pressed, a session is opened where the maker wants one, and the
change itself is posted. Each depends on the answers to those before it.
-/

namespace ClusterPower.Gateway

open Conversation Http Settings

variable {gateway : Gateway} {transition : Transition} {target : Target} {events : List Event}
  {outcome : Outcome}

/-! ## What is sent -/

/-- What a target takes to be switched with a token, by the maker of its outlet. -/
inductive ChangeBody (target : Target) (token : String) : Json → Prop
  | reset (plain : target.traits.outletMaker = none) :
      ChangeBody target token (.object [("ResetType", .text token)])
  | powerState (maker : target.traits.outletMaker = some .serverTech) :
      ChangeBody target token (.object [("PowerState", .text token)])
  | outlet {number : Nat} (maker : target.traits.outletMaker = some .hpe)
      (numbered : outletNumber? target.hostname = some number) :
      ChangeBody target token (.object [
        ("OutletNumber", .ofNat number), ("StartupState", .text "on"),
        ("Outletname", .text ("OUTLET" ++ toString number)), ("OnDelay", .integer 0),
        ("OffDelay", .integer 0), ("RebootDelay", .integer 5),
        ("OutletStatus", .text (Text.lowerCase token))])

def probeRequest (gateway : Gateway) (target : Target) : Request :=
  gateway.request target .get target.basePath

def loginRequest (gateway : Gateway) (target : Target) : Request :=
  gateway.jsonRequest target .post "/redfish/v1/SessionService/Sessions"
    (Redfish.body (.object [("username", .text target.user), ("password", .text target.password)]))

def changeRequest (gateway : Gateway) (target : Target) (body : Json)
    (sessionToken : Option Bytes) : Request :=
  { gateway.jsonRequest target .post target.actionPath (Redfish.body body) with sessionToken }

def sessionToken? : Answer → Option Bytes
  | .reply reply => reply.header? "x-auth-token"
  | _ => none

def attempt (request : Request) (answer : Option Answer) : List Event :=
  answer.toList.map (.asked request)

/-- An answer that shows the target in the state of this name. -/
def Shows (target : Target) (state : String) (answer : Answer) : Prop :=
  ∃ reply, answer = .reply reply ∧ reply.status < 400 ∧
    reportedState? target.resource reply.body = some state

/-- There is nothing to send. -/
def Withheld (gateway : Gateway) (transition : Transition) (target : Target) : Prop :=
  target.host = "" ∨
  (∀ token ∈ gateway.settings.listedTokens transition, token ∉ target.resetTokens) ∨
  (target.traits.outletMaker = some .hpe ∧ outletNumber? target.hostname = none)

instance : Decidable (Withheld gateway transition target) :=
  inferInstanceAs (Decidable (_ ∨ _ ∨ _))

/-- How far a change comes, and what comes of it. -/
structure Sent (target : Target) (login change : Option Answer) (outcome : Outcome) : Prop where
  session : login.isSome = true ↔ target.traits.outletMaker = some .hpe
  accepted : change.isSome = true ↔ ∀ answer ∈ login, Accepted answer
  concludes : ∃ last, (login.toList ++ change.toList).getLast? = some last ∧
    outcome = concluded target last

/-- How far a transition comes that is carried out with a token. -/
structure Attempted (transition : Transition) (target : Target) (token : String)
    (probe login change : Option Answer) (outcome : Outcome) : Prop where
  probed : probe.isSome = true ↔ token = pushPowerButton
  spared : (∃ answer ∈ probe, Shows target transition.name answer) →
    login = none ∧ change = none ∧ outcome = .found target transition.name
  sent : ¬(∃ answer ∈ probe, Shows target transition.name answer) →
    Sent target login change outcome

/-! ## Steps -/

theorem changeBody?_eq_some_iff {token : String} {body : Json} :
    changeBody? target token = some body ↔ ChangeBody target token body := by
  unfold changeBody?
  constructor
  · intro chosen
    split at chosen
    · next maker =>
      rcases Option.map_eq_some_iff.mp chosen with ⟨number, numbered, rfl⟩
      exact .outlet maker numbered
    · next maker =>
      cases chosen
      exact .powerState maker
    · next plain =>
      cases chosen
      exact .reset plain
  · intro chosen
    cases chosen with
    | reset plain =>
        rw [plain]
        rfl
    | powerState maker =>
        rw [maker]
        rfl
    | outlet maker numbered =>
        rw [maker]
        exact Option.map_eq_some_iff.mpr ⟨_, numbered, rfl⟩

theorem changeBody?_eq_none_iff {token : String} : changeBody? target token = none ↔
    target.traits.outletMaker = some .hpe ∧ outletNumber? target.hostname = none := by
  unfold changeBody?
  cases target.traits.outletMaker with
  | none => simp
  | some maker => cases maker <;> simp

theorem goes_readState (live : gateway.simulation = false)
    (goes : (gateway.readState target).Goes events outcome) :
    ∃ answer, events = [.asked (probeRequest gateway target) answer] ∧
      ∀ state, (outcome.isOk = true ∧ outcome.state = state) ↔ Shows target state answer := by
  unfold readState at goes
  rw [if_neg (by simp [live]), goes_exchange] at goes
  rcases goes with ⟨answer, later, rfl, ⟨reply, rfl, good, rfl, rfl⟩ | ⟨refuses, rfl, rfl⟩⟩
  · refine ⟨_, rfl, fun state => ?_⟩
    rw [polled_shows_iff]
    constructor
    · exact fun reported => ⟨reply, rfl, good, reported⟩
    · rintro ⟨_, same, _, reported⟩
      cases same
      exact reported
  · refine ⟨answer, rfl, fun state => iff_of_false ?_ ?_⟩
    · intro succeeded
      exact code_concluded_ne_zero refuses (beq_iff_eq.mp succeeded.1)
    · rintro ⟨reply, rfl, good, _⟩
      exact refuses ⟨reply, rfl, good⟩

theorem goes_postChange {body : Json} {sessionToken : Option Bytes}
    (goes : (postChange gateway target body sessionToken).Goes events outcome) :
    ∃ answer, events = [.asked (changeRequest gateway target body sessionToken) answer] ∧
      outcome = concluded target answer :=
  goes_last_exchange.mp goes

theorem goes_sendChange {body : Json}
    (goes : (sendChange gateway target body).Goes events outcome) :
    ∃ login change, events = attempt (loginRequest gateway target) login ++
        attempt (changeRequest gateway target body (login.bind sessionToken?)) change ∧
      Sent target login change outcome := by
  unfold sendChange at goes
  split at goes
  · next maker =>
    rw [goes_exchange] at goes
    rcases goes with ⟨answer, later, rfl, ⟨reply, rfl, good, posted⟩ | ⟨refuses, rfl, rfl⟩⟩
    · rcases goes_postChange posted with ⟨answer, rfl, rfl⟩
      refine ⟨some (.reply reply), some answer, rfl, ?_, ?_, answer, rfl, rfl⟩
      · simp [maker]
      · simpa using ⟨reply, rfl, good⟩
    · refine ⟨some answer, none, rfl, ?_, ?_, answer, rfl, rfl⟩
      · simp [maker]
      · simpa using refuses
  · next maker =>
    rcases goes_postChange goes with ⟨answer, rfl, rfl⟩
    refine ⟨none, some answer, rfl, ?_, ?_, answer, rfl, rfl⟩
    · simpa using maker
    · simp

theorem goes_probed {body : Json} (live : gateway.simulation = false)
    (goes : ((gateway.readState target).bind fun probe =>
      if probe.isOk && probe.state == transition.name then .done (.found target probe.state)
      else sendChange gateway target body).Goes events outcome) :
    ∃ answer login change, events = attempt (probeRequest gateway target) (some answer) ++
        (attempt (loginRequest gateway target) login ++
          attempt (changeRequest gateway target body (login.bind sessionToken?)) change) ∧
      (Shows target transition.name answer →
        login = none ∧ change = none ∧ outcome = .found target transition.name) ∧
      (¬Shows target transition.name answer → Sent target login change outcome) := by
  rcases goes_bind.mp goes with ⟨_, poll, later, rfl, asked, rest⟩
  rcases goes_readState live asked with ⟨answer, rfl, shows⟩
  by_cases shown : Shows target transition.name answer
  · have settled := (shows transition.name).mpr shown
    rw [if_pos (by simp [settled])] at rest
    rcases rest with ⟨rfl, rfl⟩
    exact ⟨answer, none, none, rfl, fun _ => ⟨rfl, rfl, by rw [settled.2]⟩, absurd shown⟩
  · have unsettled := mt (shows transition.name).mp shown
    rw [if_neg (by simpa using unsettled)] at rest
    rcases goes_sendChange rest with ⟨login, change, rfl, sent⟩
    exact ⟨answer, login, change, rfl, fun other => absurd other shown, fun _ => sent⟩

theorem goes_change_withheld (withheld : Withheld gateway transition target)
    (goes : (gateway.call (.change transition) target).Goes events outcome) :
    events = [] ∧ outcome.code = -1 := by
  unfold call at goes
  split at goes
  · exact ⟨goes.1, by rw [goes.2]; rfl⟩
  · next reachable =>
    dsimp only at goes
    unfold change at goes
    split at goes
    · exact ⟨goes.1, by rw [goes.2]; rfl⟩
    · next token taken =>
      -- Whether there is a body does not depend on the token.
      have unnumbered : changeBody? target token = none := by
        rw [changeBody?_eq_none_iff]
        rcases withheld with nowhere | refused | outlet
        · exact absurd (String.isEmpty_iff.mpr nowhere) reachable
        · rcases resetToken_eq_error_iff.mpr refused with ⟨error, failed⟩
          cases taken.symm.trans failed
        · exact outlet
      rw [unnumbered] at goes
      exact ⟨goes.1, by rw [goes.2]; rfl⟩

theorem goes_change_attempted (live : gateway.simulation = false)
    (proceeds : ¬Withheld gateway transition target)
    (goes : (gateway.call (.change transition) target).Goes events outcome) :
    ∃ token body probe login change,
      IsPreferred (gateway.settings.listedTokens transition) target.resetTokens token ∧
      ChangeBody target token body ∧
      events = attempt (probeRequest gateway target) probe ++
        (attempt (loginRequest gateway target) login ++
          attempt (changeRequest gateway target body (login.bind sessionToken?)) change) ∧
      Attempted transition target token probe login change outcome := by
  simp only [Withheld, not_or] at proceeds
  rcases proceeds with ⟨reachable, allowed, numbered⟩
  unfold call at goes
  rw [if_neg (mt String.isEmpty_iff.mp reachable)] at goes
  dsimp only at goes
  unfold change at goes
  cases taken : gateway.settings.resetToken transition target.resetTokens with
  | error error => exact absurd (resetToken_eq_error_iff.mp ⟨error, taken⟩) allowed
  | ok token =>
      have formed : changeBody? target token ≠ none := mt changeBody?_eq_none_iff.mp numbered
      rcases Option.ne_none_iff_exists'.mp formed with ⟨body, chosen⟩
      have preferred := resetToken_eq_ok_iff.mp taken
      have shaped := changeBody?_eq_some_iff.mp chosen
      simp only [taken, chosen, live, Bool.false_eq_true, if_false] at goes
      by_cases pressed : token = pushPowerButton
      · rw [if_pos pressed] at goes
        rcases goes_probed live goes with ⟨answer, login, change, rfl, spared, sent⟩
        refine ⟨token, body, some answer, login, change, preferred, shaped, rfl, ?_, ?_, ?_⟩
        · simp [pressed]
        · simpa using spared
        · simpa using sent
      · rw [if_neg pressed] at goes
        rcases goes_sendChange goes with ⟨login, change, rfl, sent⟩
        refine ⟨token, body, none, login, change, preferred, shaped, rfl, ?_, ?_, ?_⟩
        · simp [pressed]
        · simp
        · exact fun _ => sent

/-- A transition sends nothing where it has no address, no token or no outlet number. Otherwise
it asks for the state before it presses the button, logs in where the maker wants a session, and
posts the change once, with the preferred token and in the session. A target found in the state
asked for, or a login that is not accepted, is the end of it. -/
theorem change_sends_in_order {State : Type} (world : World State) (state : State)
    (live : gateway.simulation = false) :
    let course := (gateway.call (.change transition) target).trace world state
    (Withheld gateway transition target → course.1 = [] ∧ course.2.1.code = -1) ∧
    (¬Withheld gateway transition target → ∃ token body probe login change,
      IsPreferred (gateway.settings.listedTokens transition) target.resetTokens token ∧
      ChangeBody target token body ∧
      course.1 = attempt (probeRequest gateway target) probe ++
        (attempt (loginRequest gateway target) login ++
          attempt (changeRequest gateway target body (login.bind sessionToken?)) change) ∧
      Attempted transition target token probe login change course.2.1) := by
  intro course
  have goes := goes_trace world (gateway.call (.change transition) target) state
  exact ⟨fun withheld => goes_change_withheld withheld goes,
    fun proceeds => goes_change_attempted live proceeds goes⟩

theorem button_is_pressed_in_a_session :
    let gateway : Gateway := { settings := {}, simulation := false }
    let outlet : Target :=
      { hostname := "x0m0p0v7", host := "pdu", resource := .outlet
        resetTokens := ["Off", "PushPowerButton"], traits := { outletMaker := some .hpe } }
    let answers : List Answer :=
      [.reply ⟨200, [], Text.utf8 "\x7b\"PowerState\":\"Off\"\x7d"⟩,
        .reply ⟨201, [("x-auth-token", Text.utf8 "key")], []⟩, .reply ⟨204, [], []⟩]
    let course := (gateway.call (.change .on) outlet).trace scripted answers
    gateway.simulation = false ∧ ¬Withheld gateway .on outlet ∧ course.1.length = 3 ∧
    ∃ token body probe login change,
      IsPreferred (gateway.settings.listedTokens .on) outlet.resetTokens token ∧
      ChangeBody outlet token body ∧
      course.1 = attempt (probeRequest gateway outlet) probe ++
        (attempt (loginRequest gateway outlet) login ++
          attempt (changeRequest gateway outlet body (login.bind sessionToken?)) change) ∧
      Attempted .on outlet token probe login change course.2.1 := by
  intro gateway outlet answers course
  have proceeds : ¬Withheld gateway .on outlet := by decide +kernel
  exact ⟨rfl, proceeds, by decide +kernel,
    (change_sends_in_order scripted answers rfl).2 proceeds⟩

end ClusterPower.Gateway
