import ClusterPower.Proofs.Bmc.Exchange
import ClusterPower.Proofs.Ending

/-!
The requests of a power cap change. The power resource is read first and changed only under
the entity tag that it was read with; whatever goes wrong with the reading keeps the change
back. Only the collection of all controls is changed unread.
-/

namespace ClusterPower.Gateway

open Conversation Http

variable {gateway : Gateway} {target : Target} {payload : Bytes} {events : List Event}
  {outcome : Outcome}

/-! ## What is sent -/

/-- The path of the power resource, or the one made up for a target that names none. -/
def capPath (target : Target) : String :=
  if target.powerPath = "" then Path.powerOf target.basePath else target.powerPath

def capReadRequest (gateway : Gateway) (target : Target) : Request where
  method := .get
  address := gateway.address target (capPath target)
  user := target.user
  password := target.password

def capWriteRequest (gateway : Gateway) (target : Target) (payload : Bytes)
    (tag : Option String) : Request where
  method := .patch
  address := gateway.address target (capPath target)
  user := target.user
  password := target.password
  sendsJson := true
  ifMatch := tag
  body := payload

/-- An answer that shows a power resource. -/
def ShowsPower (answer : Answer) (power : Redfish.Power) : Prop :=
  ∃ reply, answer = .reply reply ∧ reply.status < 400 ∧
    powerResource? (Text.lossy reply.body) = some power

theorem ShowsPower.accepted {answer : Answer} {power : Redfish.Power}
    (shows : ShowsPower answer power) : Accepted answer := by
  rcases shows with ⟨reply, same, good, _⟩
  exact ⟨reply, same, good⟩

/-! ## Steps -/

theorem powerPath_eq_capPath (target : Target) : powerPath target = capPath target := by
  simp [powerPath, capPath, String.isEmpty_iff]

theorem goes_readCaps (live : gateway.simulation = false)
    (goes : (gateway.readCaps target).Goes events outcome) :
    ∃ answer, events = [.asked (capReadRequest gateway target) answer] ∧
      ((∃ reply, answer = .reply reply ∧ reply.status < 400 ∧
          outcome = .succeeded target (Text.lossy reply.body)) ∨
        (¬Accepted answer ∧ outcome = concluded target answer)) := by
  unfold readCaps at goes
  rw [if_neg (by simp [live]), goes_exchange, powerPath_eq_capPath] at goes
  rcases goes with ⟨answer, later, rfl, ⟨reply, rfl, good, rfl, rfl⟩ | ⟨refuses, rfl, rfl⟩⟩
  · exact ⟨_, rfl, Or.inl ⟨reply, rfl, good, rfl⟩⟩
  · exact ⟨answer, rfl, Or.inr ⟨refuses, rfl⟩⟩

theorem goes_patchCaps {tag : Option String}
    (goes : (patchCaps gateway target payload tag).Goes events outcome) :
    ∃ answer, events = [.asked (capWriteRequest gateway target payload tag) answer] := by
  unfold patchCaps at goes
  rw [goes_exchange, powerPath_eq_capPath] at goes
  rcases goes with ⟨answer, later, rfl, ⟨reply, rfl, _, rfl, _⟩ | ⟨_, rfl, _⟩⟩
  · exact ⟨_, rfl⟩
  · exact ⟨answer, rfl⟩

/-- Without a reading that shows the resource nothing is changed. -/
structure KeptBack (target : Target) (current : Answer) (later : List Event)
    (outcome : Outcome) : Prop where
  unsent : later = []
  failed : outcome.code ≠ 0
  unread : ¬Accepted current → outcome = concluded target current
  undecodable : Accepted current →
    outcome = .failed target "SetPowerCap unable to unmarshal status request"

theorem goes_writeTagged (live : gateway.simulation = false)
    (tagged : ¬"Controls.Deep".toList <:+: (capPath target).toList)
    (goes : (gateway.writeTagged target payload).Goes events outcome) :
    ∃ current later, events = .asked (capReadRequest gateway target) current :: later ∧
      (∀ power, ShowsPower current power →
        ∃ answer, later = [.asked (capWriteRequest gateway target payload power.etag) answer]) ∧
      ((¬∃ power, ShowsPower current power) → KeptBack target current later outcome) := by
  unfold writeTagged at goes
  rw [if_neg (by simp [live]), powerPath_eq_capPath, untaggedMark,
    if_neg (mt (Text.occursIn_iff _ _).mp tagged)] at goes
  rcases goes_bind.mp goes with ⟨_, read, later, rfl, asked, rest⟩
  rcases goes_readCaps live asked with ⟨current, rfl, ⟨reply, rfl, good, rfl⟩ | ⟨refuses, rfl⟩⟩
  · have goodRead : (Outcome.succeeded target (Text.lossy reply.body)).isOk = true := rfl
    rw [if_pos goodRead] at rest
    have accepted : Accepted (.reply reply) := ⟨reply, rfl, good⟩
    refine ⟨.reply reply, later, rfl, ?_⟩
    cases decoded : powerResource? (Text.lossy reply.body) with
    | none =>
        simp only [Outcome.succeeded, decoded] at rest
        rcases rest with ⟨rfl, rfl⟩
        constructor
        · rintro power ⟨_, same, _, shown⟩
          cases same
          cases decoded.symm.trans shown
        · exact fun _ => ⟨rfl, by simp [Outcome.failed], absurd accepted, fun _ => rfl⟩
    | some power =>
        simp only [Outcome.succeeded, decoded] at rest
        constructor
        · rintro other ⟨_, same, _, shown⟩
          cases same
          cases decoded.symm.trans shown
          exact goes_patchCaps rest
        · exact fun hidden => absurd ⟨power, reply, rfl, good, decoded⟩ hidden
  · have failed : (concluded target current).code ≠ 0 := code_concluded_ne_zero refuses
    have badRead : ¬(concluded target current).isOk = true := mt beq_iff_eq.mp failed
    rw [if_neg badRead] at rest
    rcases rest with ⟨rfl, rfl⟩
    refine ⟨current, [], rfl, ?_, ?_⟩
    · exact fun power shows => absurd shows.accepted refuses
    · exact fun _ => ⟨rfl, failed, fun _ => rfl, fun accepted => absurd accepted refuses⟩

/-- A change of power caps reads the power resource once and then changes it once, with the
payload as it is and under the entity tag that was read, if there was one. A reading that does
not show the resource keeps the change back and says why. The collection of all controls is
changed without either. -/
theorem caps_are_changed_under_their_tag {State : Type} (payload : Bytes)
    (world : Conversation.World State) (state : State) (live : gateway.simulation = false)
    (reachable : target.host ≠ "")
    (style : target.traits.capStyle = .indexed ∨ target.traits.capStyle = .members) :
    let course := (gateway.call (.writeCaps payload) target).trace world state
    ("Controls.Deep".toList <:+: (capPath target).toList →
      ∃ answer, course.1 = [.asked (capWriteRequest gateway target payload none) answer]) ∧
    (¬"Controls.Deep".toList <:+: (capPath target).toList →
      ∃ current later, course.1 = .asked (capReadRequest gateway target) current :: later ∧
        (∀ power, ShowsPower current power →
          ∃ answer,
            later = [.asked (capWriteRequest gateway target payload power.etag) answer]) ∧
        ((¬∃ power, ShowsPower current power) →
          KeptBack target current later course.2.1)) := by
  intro course
  have goes : (gateway.writeTagged target payload).Goes course.1 course.2.1 := by
    have called :
        gateway.call (.writeCaps payload) target = gateway.writeTagged target payload := by
      unfold call writeCaps
      rw [if_neg (mt String.isEmpty_iff.mp reachable)]
      rcases style with indexed | members
      · simp only [indexed]
      · simp only [members]
    rw [← called]
    exact goes_trace world _ state
  constructor
  · intro untagged
    unfold writeTagged at goes
    rw [if_neg (by simp [live]), powerPath_eq_capPath, untaggedMark,
      if_pos ((Text.occursIn_iff _ _).mpr untagged)] at goes
    exact goes_patchCaps goes
  · exact fun tagged => goes_writeTagged live tagged goes

theorem made_up_resource_is_changed_under_its_tag :
    let gateway : Gateway := { settings := {}, simulation := false }
    let node : Target := { host := "b", basePath := "/redfish/v1/Systems/Node0" }
    let payload := Text.utf8 "\x7b\"PowerControl\":[]\x7d"
    let read : Answer := .reply ⟨200, [], Text.utf8 "\x7b\"@odata.etag\":\"W/42\"\x7d"⟩
    let course := (gateway.call (.writeCaps payload) node).trace scripted
      [read, .reply ⟨204, [], []⟩]
    (gateway.simulation = false ∧ node.host ≠ "" ∧ node.traits.capStyle = .indexed) ∧
    capPath node = "/redfish/v1/Chassis/Node0/Power" ∧
    ∃ answer, course.1 = [.asked (capReadRequest gateway node) read,
      .asked (capWriteRequest gateway node payload (some "W/42")) answer] := by
  intro gateway node payload read course
  have live : gateway.simulation = false := rfl
  have named : node.host ≠ "" := by decide
  have path : capPath node = "/redfish/v1/Chassis/Node0/Power" := by decide +kernel
  have tagged : ¬"Controls.Deep".toList <:+: (capPath node).toList :=
    mt (Text.occursIn_iff _ _).mpr (by decide +kernel)
  have decoded : (powerResource? (Text.lossy (Text.utf8
      "\x7b\"@odata.etag\":\"W/42\"\x7d"))).map (·.etag) = some (some "W/42") := by
    decide +kernel
  rcases Option.map_eq_some_iff.mp decoded with ⟨power, shown, tag⟩
  have changed := caps_are_changed_under_their_tag payload scripted
    [read, .reply ⟨204, [], []⟩] live named (Or.inl rfl)
  rcases changed.2 tagged with ⟨current, later, events, written, _⟩
  -- The script leaves no choice of what is read.
  have first : course.1.head? = some (.asked (capReadRequest gateway node) read) := by
    decide +kernel
  rw [events] at first
  cases first
  rcases written power ⟨_, rfl, by decide, shown⟩ with ⟨answer, rfl⟩
  exact ⟨⟨live, named, rfl⟩, path, answer, by rw [events, tag]⟩

end ClusterPower.Gateway
