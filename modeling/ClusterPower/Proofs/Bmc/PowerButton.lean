import ClusterPower.Proofs.Bmc.PowerChange

/-!
The button toggles, so it is not to be pressed at a target that is already in the state asked
for. What a target shows is compared with the name of the transition. That of a forced transition
is not the name of the state that it is to bring about, so those press the button regardless.
-/

namespace ClusterPower

/-- What the transition is to bring about, by force or not, is the case in this state. -/
def Transition.IsMetBy (transition : Transition) (state : String) : Prop :=
  (transition.isOn = true ∧ state = Outcome.stateOn) ∨
    (transition.isOff = true ∧ state = Outcome.stateOff)

def Transition.IsForced (transition : Transition) : Prop :=
  transition.forced? = some transition

instance {transition : Transition} : Decidable transition.IsForced :=
  inferInstanceAs (Decidable (_ = _))

theorem Transition.IsMetBy.name_ne_iff {transition : Transition} {state : String}
    (met : transition.IsMetBy state) : transition.name ≠ state ↔ transition.IsForced := by
  unfold IsForced
  rcases met with ⟨on, rfl⟩ | ⟨off, rfl⟩
  · cases transition with
    | on | forceOn => decide
    | off | forceOff | restart | forceRestart | nonMaskableInterrupt => cases on
  · cases transition with
    | off | forceOff => decide
    | on | forceOn | restart | forceRestart | nonMaskableInterrupt => cases off

namespace Gateway

open Conversation Http

variable {gateway : Gateway} {transition : Transition} {target : Target} {events : List Event}
  {outcome : Outcome}

/-- Something is asked to change. -/
def Posts (events : List Event) : Prop :=
  ∃ request answer, .asked request answer ∈ events ∧ request.method = .post

theorem Shows.unique {answer : Answer} {state other : String} (shows : Shows target state answer)
    (also : Shows target other answer) : state = other := by
  rcases shows with ⟨reply, rfl, _, reported⟩
  rcases also with ⟨_, same, _, alsoReported⟩
  cases same
  exact Option.some.inj (reported.symm.trans alsoReported)

/-! ## Requests of a change -/

theorem mem_attempt {event : Event} {request : Request} {answer : Option Answer} :
    event ∈ attempt request answer ↔ ∃ given ∈ answer, event = .asked request given := by
  simp [attempt, eq_comm]

theorem posts_change {login change : Option Answer} {body : Json}
    {sessionToken : Option Bytes} (sent : Sent target login change outcome) :
    Posts (attempt (loginRequest gateway target) login ++
      attempt (changeRequest gateway target body sessionToken) change) := by
  rcases sent.concludes with ⟨last, final, _⟩
  rcases List.mem_append.mp (List.mem_of_getLast? final) with inLogin | inChange
  · have given : last ∈ login := Option.mem_toList.mp inLogin
    exact ⟨_, last, List.mem_append_left _ (mem_attempt.mpr ⟨last, given, rfl⟩), rfl⟩
  · have given : last ∈ change := Option.mem_toList.mp inChange
    exact ⟨_, last, List.mem_append_right _ (mem_attempt.mpr ⟨last, given, rfl⟩), rfl⟩

theorem goes_button (live : gateway.simulation = false)
    (button : gateway.settings.resetToken transition target.resetTokens = .ok pushPowerButton)
    (begun : events ≠ [])
    (goes : (gateway.call (.change transition) target).Goes events outcome) :
    ∃ answer body login change,
      events = .asked (probeRequest gateway target) answer ::
        (attempt (loginRequest gateway target) login ++
          attempt (changeRequest gateway target body (login.bind sessionToken?)) change) ∧
      (Shows target transition.name answer →
        login = none ∧ change = none ∧ outcome = .found target transition.name) ∧
      (¬Shows target transition.name answer → Sent target login change outcome) := by
  have proceeds : ¬Withheld gateway transition target :=
    fun withheld => begun (goes_change_withheld withheld goes).1
  rcases goes_change_attempted live proceeds goes with
    ⟨token, body, probe, login, change, preferred, _, rfl, attempted⟩
  have same : token = pushPowerButton :=
    Except.ok.inj ((Settings.resetToken_eq_ok_iff.mpr preferred).symm.trans button)
  rcases Option.isSome_iff_exists.mp (attempted.probed.mpr same) with ⟨answer, rfl⟩
  refine ⟨answer, body, login, change, rfl, ?_, ?_⟩
  · exact fun shown => attempted.spared ⟨answer, rfl, shown⟩
  · intro hidden
    apply attempted.sent
    intro shows
    rcases shows with ⟨_, same, shown⟩
    cases same
    exact hidden shown

/-! ## A node with a button -/

def poweredOn : Answer := .reply ⟨200, [], Text.utf8 "\x7b\"PowerState\":\"On\"\x7d"⟩

def poweredOff : Answer := .reply ⟨200, [], Text.utf8 "\x7b\"PowerState\":\"Off\"\x7d"⟩

def buttoned : World Bool := fun request on =>
  match request.method with
  | .post => (.reply ⟨204, [], []⟩, !on)
  | .get | .patch => (if on then poweredOn else poweredOff, on)

def buttonedNode : Target :=
  { xname := "x0", kind := .node, host := "b", resource := .computerSystem
    basePath := "/system", actionPath := "/reset", resetTokens := ["PushPowerButton"] }

def buttonSettings : Settings :=
  let press : ActionRule := { componentOrder := [.node], resetTokens := ["PushPowerButton"] }
  { rules := .ofList
      [("On", press), ("Off", press), ("ForceOn", press), ("ForceOff", press)] }

/-! ## Pressing the button -/

/-- A target that shows what a change with the button is to bring about is left alone, and found
in that state, exactly if the change is not by force. -/
theorem button_pressed_when_met_iff_forced {State : Type} (world : World State)
    (state : State) (live : gateway.simulation = false)
    (button : gateway.settings.resetToken transition target.resetTokens = .ok pushPowerButton) :
    let course := (gateway.call (.change transition) target).trace world state
    ∀ answer, .asked (probeRequest gateway target) answer ∈ course.1 →
    ∀ shown, Shows target shown answer → transition.IsMetBy shown →
      (Posts course.1 ↔ transition.IsForced) ∧
      (¬transition.IsForced →
        course.1 = [.asked (probeRequest gateway target) answer] ∧
        course.2.1 = .found target shown) := by
  intro course answer probed shown shows met
  have goes := goes_trace world (gateway.call (.change transition) target) state
  rcases goes_button live button (List.ne_nil_of_mem probed) goes with
    ⟨first, body, login, change, events, spared, sent⟩
  have events : course.1 = _ := events
  -- Only the probe reads; whatever follows it posts.
  have same : answer = first := by
    rw [events] at probed
    simpa [mem_attempt, probeRequest, loginRequest, changeRequest, request, jsonRequest]
      using probed
  subst same
  by_cases named : transition.name = shown
  · have plain : ¬transition.IsForced := mt met.name_ne_iff.mpr (not_not.mpr named)
    rcases spared (named ▸ shows) with ⟨rfl, rfl, found⟩
    refine ⟨iff_of_false ?_ plain, fun _ => ⟨events, by rw [← named]; exact found⟩⟩
    intro posts
    rcases posts with ⟨posted, reply, asked, post⟩
    rw [events] at asked
    cases List.mem_singleton.mp asked
    cases post
  · have forced := met.name_ne_iff.mp named
    have hidden : ¬Shows target transition.name answer :=
      fun also => named (also.unique shows)
    refine ⟨iff_of_true ?_ forced, fun plain => absurd forced plain⟩
    rcases posts_change (sent hidden) with ⟨posted, reply, asked, post⟩
    exact ⟨posted, reply, by rw [events]; exact List.mem_cons_of_mem _ asked, post⟩

theorem running_node_is_left_on :
    let gateway : Gateway := { settings := buttonSettings, simulation := false }
    let course := (gateway.call (.change .on) buttonedNode).trace buttoned true
    gateway.settings.resetToken .on buttonedNode.resetTokens = .ok pushPowerButton ∧
    course.1 = [.asked (probeRequest gateway buttonedNode) poweredOn] ∧
    course.2.1 = .found buttonedNode "On" ∧ course.2.2 = true := by
  intro gateway course
  have button : gateway.settings.resetToken .on buttonedNode.resetTokens =
      .ok pushPowerButton := by rfl
  have left := (button_pressed_when_met_iff_forced buttoned true rfl button poweredOn
    (by decide +kernel) "On" ⟨_, rfl, by decide, by decide +kernel⟩ (Or.inl ⟨rfl, rfl⟩)).2
    (by decide)
  exact ⟨button, left.1, left.2, by decide +kernel⟩

theorem running_node_is_turned_off_by_force :
    let gateway : Gateway := { settings := buttonSettings, simulation := false }
    let course := (gateway.call (.change .forceOn) buttonedNode).trace buttoned true
    gateway.settings.resetToken .forceOn buttonedNode.resetTokens = .ok pushPowerButton ∧
    Transition.forceOn.IsMetBy "On" ∧ Shows buttonedNode "On" poweredOn ∧
    (∃ answer, course.1 = [.asked (probeRequest gateway buttonedNode) poweredOn,
      .asked (changeRequest gateway buttonedNode (.object [("ResetType", .text pushPowerButton)])
        none) answer]) ∧
    course.2.1.isOk = true ∧ course.2.2 = false := by
  intro gateway course
  exact ⟨by rfl, Or.inl ⟨rfl, rfl⟩, ⟨_, rfl, by decide, by decide +kernel⟩,
    ⟨.reply ⟨204, [], []⟩, by decide +kernel⟩, by decide +kernel, by decide +kernel⟩

end Gateway

end ClusterPower
