import ClusterPower.Http.CertificateBundle
import ClusterPower.Proofs.Bmc.Errand
import ClusterPower.Proofs.Replies
import Mathlib.Data.DFinsupp.WellFounded
import Mathlib.Order.WellFounded

/-!
The client in use. Any number of duties share it, in any order and with any answers, each of them
one small step at a time. What can be noticed of the steps is kept in a log, so that a statement
about all reachable states with their logs is one about all interleavings.
-/

namespace ClusterPower

open Http Function Conversation

/-- The client with its lock and those who share it. -/
structure Sharing (Place Client : Type) where
  client : Client
  lock : Lock Place := {}
  rest : Place → Errand Client Duty.Ending

namespace Sharing

/-- What can be noticed of a step. -/
inductive Note (Place Client : Type) where
  | asked (place : Place) (request : Request) (answer : Answer) (client : Client)
  | paused (place : Place)
  | applied (place : Place) (guard : Guard)
  | admitted (place : Place) (guard : Guard)
  | gaveBack (place : Place) (guard : Guard)
  | put (place : Place) (client : Client)
deriving DecidableEq

variable {Place Client : Type}

def Note.place : Note Place Client → Place
  | asked place _ _ _ | paused place | applied place _ | admitted place _ | gaveBack place _
  | put place _ => place

def Note.exchange? : Note Place Client → Option Exchange
  | asked _ request answer _ => some (request, answer)
  | paused _ | applied _ _ | admitted _ _ | gaveBack _ _ | put _ _ => none

def opening (gateway : Gateway) (build : Option Bytes → Option Client) (duties : Place → Duty)
    (client : Client) : Sharing Place Client where
  client
  rest place := (duties place).errand gateway build

variable [DecidableEq Place]

def go (sharing : Sharing Place Client) (place : Place) (next : Errand Client Duty.Ending) :
    Sharing Place Client :=
  { sharing with rest := update sharing.rest place next }

/-- A request is sent through the client that is in place by then, and may be answered anyhow. -/
inductive Step (discipline : Discipline Place) (sharing : Sharing Place Client) :
    Note Place Client → Sharing Place Client → Prop
  | ask {place request next} (turn : sharing.rest place = .ask request next) (answer : Answer) :
      Step discipline sharing (.asked place request answer sharing.client)
        (sharing.go place (next answer))
  | pause {place seconds next} (turn : sharing.rest place = .pause seconds next) :
      Step discipline sharing (.paused place) (sharing.go place next)
  | apply {place guard next} (turn : sharing.rest place = .apply guard next) :
      Step discipline sharing (.applied place guard)
        { sharing.go place next with lock := sharing.lock.ask place guard }
  | letIn {place guard next} (turn : sharing.rest place = .wait guard next)
      (admits : discipline.Admits sharing.lock place guard) :
      Step discipline sharing (.admitted place guard)
        { sharing.go place next with lock := sharing.lock.letIn place guard }
  | giveBack {place guard next} (turn : sharing.rest place = .giveBack guard next) :
      Step discipline sharing (.gaveBack place guard)
        { sharing.go place next with lock := sharing.lock.giveBack place guard }
  | put {place client next} (turn : sharing.rest place = .put client next) :
      Step discipline sharing (.put place client) { sharing.go place next with client }

/-- What is reached by some steps, with all notes of them in order. -/
inductive Reaches (discipline : Discipline Place) (start : Sharing Place Client) :
    List (Note Place Client) → Sharing Place Client → Prop
  | refl : Reaches discipline start [] start
  | tail {log sharing note after} (reaches : Reaches discipline start log sharing)
      (step : Step discipline sharing note after) : Reaches discipline start (log ++ [note]) after

variable {discipline : Discipline Place} {sharing next start : Sharing Place Client}
  {note : Note Place Client} {log : List (Note Place Client)} {place : Place}

/-! ## Good order -/

/-- Everybody stands with the lock where their errand has them. -/
structure InOrder (fresh : Place → Client → Prop) (sharing : Sharing Place Client) : Prop where
  lock : sharing.lock.Sound
  places : ∀ place, ∃ standing, sharing.lock.Stands place standing ∧
    (sharing.rest place).Orderly (fresh place) standing

namespace InOrder

variable {fresh : Place → Client → Prop}

theorem stands (inOrder : sharing.InOrder fresh) {rest : Errand Client Duty.Ending}
    (turn : sharing.rest place = rest) : ∃ standing, sharing.lock.Stands place standing ∧
      rest.Orderly (fresh place) standing :=
  turn ▸ inOrder.places place

theorem opening (gateway : Gateway) (build : Option Bytes → Option Client)
    (duties : Place → Duty) (client : Client) :
    (opening gateway build duties client).InOrder fun place => (duties place).Builds build where
  lock := Or.inl nofun
  places place := ⟨.outside, ⟨rfl, rfl⟩, Duty.orderly_errand gateway build (duties place)⟩

theorem go {client : Client} {lock : Lock Place} {rest : Errand Client Duty.Ending}
    {standing : Standing} (inOrder : sharing.InOrder fresh) (sound : lock.Sound)
    (stands : lock.Stands place standing) (orderly : rest.Orderly (fresh place) standing)
    (others : ∀ {other standing}, place ≠ other → sharing.lock.Stands other standing →
      lock.Stands other standing) :
    InOrder fresh { client, lock, rest := update sharing.rest place rest } where
  lock := sound
  places other := by
    by_cases same : other = place
    · rw [same]
      exact ⟨standing, stands, by simpa using orderly⟩
    · rcases inOrder.places other with ⟨standing, stands, orderly⟩
      exact ⟨standing, others (Ne.symm same) stands, by simpa [same] using orderly⟩

theorem step (inOrder : sharing.InOrder fresh) (step : Step discipline sharing note next) :
    next.InOrder fresh := by
  cases step with
  | ask turn answer =>
      rcases inOrder.stands turn with ⟨standing, stands, orderly⟩
      exact inOrder.go inOrder.lock stands (orderly.2 answer) fun _ stands => stands
  | pause turn =>
      rcases inOrder.stands turn with ⟨standing, stands, orderly⟩
      exact inOrder.go inOrder.lock stands orderly.2 fun _ stands => stands
  | @apply _ guard _ turn =>
      rcases inOrder.stands turn with ⟨_, stands, rfl, orderly⟩
      exact inOrder.go inOrder.lock (stands.ask guard) orderly
        fun apart stands => stands.ask_other apart
  | letIn turn admits =>
      rcases inOrder.stands turn with ⟨_, stands, rfl, orderly⟩
      exact inOrder.go (Discipline.sound_letIn admits) stands.letIn orderly
        fun apart stands => stands.letIn_other apart
  | giveBack turn =>
      rcases inOrder.stands turn with ⟨_, stands, rfl, orderly⟩
      exact inOrder.go inOrder.lock.giveBack stands.giveBack orderly
        fun apart stands => stands.giveBack_other apart
  | put turn =>
      rcases inOrder.stands turn with ⟨standing, stands, orderly⟩
      exact inOrder.go inOrder.lock stands orderly.2.2 fun _ stands => stands

theorem reaches (inOrder : start.InOrder fresh) (reaches : Reaches discipline start log sharing) :
    sharing.InOrder fresh := by
  induction reaches with
  | refl => exact inOrder
  | tail before step induction => exact induction.step step

end InOrder

/-! ## What a step does -/

/-- The client is shared carefully in a step. -/
structure Careful (build : Option Bytes → Option Client) (duties : Place → Duty)
    (sharing : Sharing Place Client) (note : Note Place Client) (next : Sharing Place Client) :
    Prop where
  asks : ∀ place request answer client, note = .asked place request answer client →
    (place, .shared) ∈ sharing.lock.held ∧ client = sharing.client
  applies : ∀ place guard, note = .applied place guard →
    ∀ other, (place, other) ∉ sharing.lock.held
  /-- The client changes only while no call is inside, and only to the one that a rotation has
  been able to build. -/
  changes : next.client ≠ sharing.client →
    (∀ place, (place, .shared) ∉ sharing.lock.held) ∧
    ∃ place, note = .put place next.client ∧ (duties place).Builds build next.client

variable {fresh : Place → Client → Prop} {client : Client}

theorem InOrder.inside_of_ask (inOrder : sharing.InOrder fresh) {request : Request}
    {rest : Answer → Errand Client Duty.Ending} (turn : sharing.rest place = .ask request rest) :
    (place, .shared) ∈ sharing.lock.held := by
  rcases inOrder.stands turn with ⟨standing, stands, orderly⟩
  exact stands.mem_held_iff.mpr orderly.1

theorem InOrder.alone (inOrder : sharing.InOrder fresh) {rest : Errand Client Duty.Ending}
    (turn : sharing.rest place = .put client rest) :
    sharing.lock.held = [(place, .alone)] ∧ fresh place client := by
  rcases inOrder.stands turn with ⟨standing, stands, orderly⟩
  rcases orderly with ⟨rfl, builds, _⟩
  exact ⟨inOrder.lock.held_eq (stands.mem_held_iff.mpr rfl), builds⟩

theorem Step.careful {build : Option Bytes → Option Client} {duties : Place → Duty}
    (step : Step discipline sharing note next)
    (inOrder : sharing.InOrder fun place => (duties place).Builds build) :
    Careful build duties sharing note next where
  asks := by
    intro place request answer client same
    cases step with
    | ask turn =>
        cases same
        exact ⟨inOrder.inside_of_ask turn, rfl⟩
    | pause | apply | letIn | giveBack | put => cases same
  applies := by
    intro place guard same other
    cases step with
    | apply turn =>
        cases same
        rcases inOrder.stands turn with ⟨standing, stands, orderly⟩
        rw [stands.mem_held_iff, orderly.1]
        nofun
    | ask | pause | letIn | giveBack | put => cases same
  changes := by
    intro changed
    cases step with
    | put turn =>
        rcases inOrder.alone turn with ⟨held, builds⟩
        exact ⟨by simp [held], _, rfl, builds⟩
    | ask | pause | apply | letIn | giveBack => exact absurd rfl changed

/-! ## One client for each call -/

theorem Step.stays (step : Step discipline sharing note next) (inOrder : sharing.InOrder fresh)
    (inside : (place, .shared) ∈ sharing.lock.held) (stays : note ≠ .gaveBack place .shared) :
    (place, .shared) ∈ next.lock.held ∧ next.client = sharing.client := by
  cases step with
  | ask | pause | apply => exact ⟨inside, rfl⟩
  | letIn => exact ⟨List.mem_cons_of_mem _ inside, rfl⟩
  | @giveBack other guard =>
      have apart : (place, Guard.shared) ≠ (other, guard) := by
        intro same
        cases same
        exact stays rfl
      exact ⟨(List.mem_erase_of_ne apart).mpr inside, rfl⟩
  | put turn =>
      rw [(inOrder.alone turn).1] at inside
      cases List.mem_singleton.mp inside

theorem Reaches.stays (reaches : Reaches discipline start log sharing)
    (inOrder : start.InOrder fresh) {before after : List (Note Place Client)}
    {request : Request} {answer : Answer}
    (split : log = before ++ .asked place request answer client :: after)
    (stays : .gaveBack place .shared ∉ after) :
    (place, .shared) ∈ sharing.lock.held ∧ sharing.client = client := by
  induction reaches generalizing after with
  | refl => simp at split
  | @tail log sharing note next reaches step induction =>
      have kept := inOrder.reaches reaches
      rcases List.eq_nil_or_concat after with rfl | ⟨within, last, rfl⟩
      · cases (List.append_inj' split rfl).2
        cases step with
        | ask turn => exact ⟨kept.inside_of_ask turn, rfl⟩
      · rw [List.concat_eq_append, ← List.cons_append, ← List.append_assoc] at split
        cases (List.append_inj' split rfl).2
        rw [List.concat_eq_append, List.mem_append, not_or] at stays
        rcases induction (List.append_inj' split rfl).1 stays.1 with ⟨inside, same⟩
        have next := step.stays kept inside fun gaveBack => stays.2 (by simp [gaveBack])
        exact ⟨next.1, next.2.trans same⟩

theorem Reaches.step_of_split (reaches : Reaches discipline start log sharing)
    {before after : List (Note Place Client)} (split : log = before ++ note :: after) :
    ∃ middle next, Reaches discipline start before middle ∧ Step discipline middle note next := by
  induction reaches generalizing after with
  | refl => simp at split
  | @tail log sharing last next reaches step induction =>
      rcases List.eq_nil_or_concat after with rfl | ⟨within, other, rfl⟩
      · rcases List.append_inj' split rfl with ⟨rfl, same⟩
        cases same
        exact ⟨sharing, next, reaches, step⟩
      · rw [List.concat_eq_append, ← List.cons_append, ← List.append_assoc] at split
        exact induction (List.append_inj' split rfl).1

theorem Reaches.client_unchanged (reaches : Reaches discipline start log sharing)
    (inOrder : start.InOrder fresh) {before between behind : List (Note Place Client)}
    {request later : Request} {answer reply : Answer} {other : Client}
    (split : log = before ++ .asked place request answer client ::
      (between ++ .asked place later reply other :: behind))
    (stays : .gaveBack place .shared ∉ between) : other = client := by
  have nearer : log = (before ++ .asked place request answer client :: between) ++
      .asked place later reply other :: behind := by
    rw [split, List.append_assoc, List.cons_append]
  rcases reaches.step_of_split nearer with ⟨middle, next, reached, step⟩
  have same := (reached.stays inOrder rfl stays).2
  cases step with
  | ask => exact same

/-! ## What is done and what is left -/

def exchangesOf (log : List (Note Place Client)) (place : Place) : List Exchange :=
  (log.filter fun note => note.place = place).filterMap Note.exchange?

theorem exchangesOf_concat : exchangesOf (log ++ [note]) note.place =
    exchangesOf log note.place ++ note.exchange?.toList := by
  cases asked : note.exchange? <;> simp [exchangesOf, asked]

theorem exchangesOf_concat_other (apart : place ≠ note.place) :
    exchangesOf (log ++ [note]) place = exchangesOf log place := by
  simp [exchangesOf, Ne.symm apart]

theorem Step.rest_other (step : Step discipline sharing note next) (apart : place ≠ note.place) :
    next.rest place = sharing.rest place := by
  cases step <;> exact update_of_ne apart _ _

theorem Step.leads (step : Step discipline sharing note next)
    {conversation : Conversation Duty.Ending}
    (leads : conversation.Leads (exchangesOf log place) (sharing.rest place).forget) :
    conversation.Leads (exchangesOf (log ++ [note]) place) (next.rest place).forget := by
  by_cases same : place = note.place
  · subst same
    rw [exchangesOf_concat]
    cases step with
    | ask turn answer =>
        simp only [Note.place, turn, go, update_self] at leads ⊢
        exact leads.ask answer
    | pause turn =>
        simp only [Note.place, turn, go, update_self] at leads ⊢
        exact (List.append_nil _).symm ▸ leads.pause
    | apply turn | letIn turn | giveBack turn | put turn =>
        simp only [Note.place, turn, go, update_self] at leads ⊢
        exact (List.append_nil _).symm ▸ leads
  · rw [exchangesOf_concat_other same, step.rest_other same]
    exact leads

theorem Reaches.leads (reaches : Reaches discipline start log sharing) (place : Place) :
    (start.rest place).forget.Leads (exchangesOf log place) (sharing.rest place).forget := by
  induction reaches with
  | refl => exact .begin
  | tail before step induction => exact step.leads induction

theorem Step.puts (step : Step discipline sharing note next)
    (puts : (sharing.rest place).Puts client) :
    note = .put place client ∨ (next.rest place).Puts client := by
  by_cases same : place = note.place
  · subst same
    cases step with
    | ask turn answer =>
        simp only [Note.place, turn, go, update_self] at puts ⊢
        exact Or.inr (puts answer)
    | pause turn | apply turn | letIn turn | giveBack turn =>
        simp only [Note.place, turn, go, update_self] at puts ⊢
        exact Or.inr puts
    | put turn =>
        simp only [Note.place, turn, go, update_self] at puts ⊢
        exact puts.imp_left fun same => congrArg _ same
  · exact Or.inr (by rwa [step.rest_other same])

theorem Reaches.puts (reaches : Reaches discipline start log sharing)
    (puts : (start.rest place).Puts client) :
    .put place client ∈ log ∨ (sharing.rest place).Puts client := by
  induction reaches with
  | refl => exact Or.inr puts
  | tail before step induction =>
      rcases induction with done | puts
      · exact Or.inl (List.mem_append_left _ done)
      · rcases step.puts puts with rfl | behind
        · exact Or.inl (List.mem_append_right _ (List.mem_singleton_self _))
        · exact Or.inr behind

/-! ## Nobody waits for ever -/

/-- Nothing is left to be done. -/
def Finished (sharing : Sharing Place Client) : Prop :=
  ∀ place, (sharing.rest place).isDone = true

theorem cases_rest (discipline : Discipline Place) (sharing : Sharing Place Client)
    (place : Place) :
    (sharing.rest place).isDone = true ∨
      (∃ guard next, sharing.rest place = .wait guard next) ∨
      ∃ note next, Step discipline sharing note next := by
  cases turn : sharing.rest place with
  | done ending => exact Or.inl rfl
  | wait guard next => exact Or.inr (Or.inl ⟨guard, next, rfl⟩)
  | ask request next => exact Or.inr (Or.inr ⟨_, _, .ask turn .unreachable⟩)
  | pause seconds next => exact Or.inr (Or.inr ⟨_, _, .pause turn⟩)
  | apply guard next => exact Or.inr (Or.inr ⟨_, _, .apply turn⟩)
  | giveBack guard next => exact Or.inr (Or.inr ⟨_, _, .giveBack turn⟩)
  | put client next => exact Or.inr (Or.inr ⟨_, _, .put turn⟩)

theorem InOrder.goesOn (inOrder : sharing.InOrder fresh) (discipline : Discipline Place)
    (unfinished : ¬sharing.Finished) : ∃ note next, Step discipline sharing note next := by
  by_cases free : sharing.lock.held = []
  · by_cases waits : sharing.lock.waiting = []
    · rcases not_forall.mp unfinished with ⟨place, unfinished⟩
      rcases cases_rest discipline sharing place with done | ⟨guard, next, turn⟩ | goes
      · exact absurd done unfinished
      · rcases inOrder.stands turn with ⟨standing, stands, orderly⟩
        have waiting := stands.mem_waiting_iff.mpr orderly.1
        rw [waits] at waiting
        cases waiting
      · exact goes
    · rcases discipline.serves free waits with ⟨place, guard, admits⟩
      rcases inOrder.places place with ⟨standing, stands, orderly⟩
      have waiting := stands.mem_waiting_iff.mp (discipline.awaited admits)
      rcases cases_rest discipline sharing place with done | ⟨other, next, turn⟩ | goes
      · rw [orderly.outside_of_isDone done] at waiting
        cases waiting
      · rw [turn, waiting] at orderly
        cases orderly.1
        exact ⟨_, _, .letIn turn admits⟩
      · exact goes
  · rcases List.exists_mem_of_ne_nil _ free with ⟨⟨place, guard⟩, inside⟩
    rcases inOrder.places place with ⟨standing, stands, orderly⟩
    have standing := stands.mem_held_iff.mp inside
    rcases cases_rest discipline sharing place with done | ⟨other, next, turn⟩ | goes
    · rw [orderly.outside_of_isDone done] at standing
      cases standing
    · rw [turn, standing] at orderly
      cases orderly.1
    · exact goes

theorem Step.behind (step : Step discipline sharing note next) :
    ∃ place rest, next.rest = update sharing.rest place rest ∧
      rest.Behind (sharing.rest place) := by
  cases step with
  | ask turn answer => exact ⟨_, _, rfl, by rw [turn]; exact .ask answer⟩
  | pause turn => exact ⟨_, _, rfl, by rw [turn]; exact .pause⟩
  | apply turn => exact ⟨_, _, rfl, by rw [turn]; exact .apply⟩
  | letIn turn => exact ⟨_, _, rfl, by rw [turn]; exact .wait⟩
  | giveBack turn => exact ⟨_, _, rfl, by rw [turn]; exact .giveBack⟩
  | put turn => exact ⟨_, _, rfl, by rw [turn]; exact .put⟩

theorem wellFounded_step [Finite Place] (discipline : Discipline Place) :
    WellFounded fun next sharing : Sharing Place Client =>
      ∃ note, Step discipline sharing note next := by
  have less : WellFounded (Pi.Lex WellOrderingRel fun {_ : Place} =>
      @Errand.Behind Client Duty.Ending) :=
    Pi.Lex.wellFounded _ fun _ => Errand.wellFounded_behind
  refine Subrelation.wf ?_ (InvImage.wf rest less)
  intro next sharing goes
  rcases goes with ⟨note, step⟩
  rcases step.behind with ⟨place, rest, same, behind⟩
  refine ⟨place, fun other before => ?_, ?_⟩
  · rw [same, update_of_ne (ne_of_irrefl before)]
  · rw [same, update_self]
    exact behind

/-! ## Runs by a plan -/

/-- The step of a place, if it can take one while the first come is the first served; a request
is answered with the answer given. -/
def step? (sharing : Sharing Place Client) (place : Place) (answer : Answer) :
    Option (Note Place Client × Sharing Place Client) :=
  match sharing.rest place with
  | .done _ => none
  | .ask request next =>
    some (.asked place request answer sharing.client, sharing.go place (next answer))
  | .pause _ next => some (.paused place, sharing.go place next)
  | .apply guard next =>
    some (.applied place guard,
      { sharing.go place next with lock := sharing.lock.ask place guard })
  | .wait guard next =>
    if (Discipline.fifo Place).Admits sharing.lock place guard then
      some (.admitted place guard,
        { sharing.go place next with lock := sharing.lock.letIn place guard })
    else none
  | .giveBack guard next =>
    some (.gaveBack place guard,
      { sharing.go place next with lock := sharing.lock.giveBack place guard })
  | .put client next => some (.put place client, { sharing.go place next with client })

theorem step_of_step? {answer : Answer}
    (taken : sharing.step? place answer = some (note, next)) :
    Step (.fifo Place) sharing note next := by
  unfold step? at taken
  split at taken
  · cases taken
  · next turn => cases taken; exact .ask turn answer
  · next turn => cases taken; exact .pause turn
  · next turn => cases taken; exact .apply turn
  · next turn =>
    split at taken
    · next admits => cases taken; exact .letIn turn admits
    · cases taken
  · next turn => cases taken; exact .giveBack turn
  · next turn => cases taken; exact .put turn

def follow : List (Place × Answer) → List (Note Place Client) × Sharing Place Client →
    Option (List (Note Place Client) × Sharing Place Client)
  | [], reached => some reached
  | (place, answer) :: turns, (log, sharing) =>
    (sharing.step? place answer).bind fun taken => follow turns (log ++ [taken.1], taken.2)

theorem reaches_follow {turns : List (Place × Answer)} {final : List (Note Place Client)}
    (reaches : Reaches (.fifo Place) start log sharing)
    (followed : follow turns (log, sharing) = some (final, next)) :
    Reaches (.fifo Place) start final next := by
  induction turns generalizing log sharing with
  | nil =>
      cases followed
      exact reaches
  | cons turn turns induction =>
      rcases Option.bind_eq_some_iff.mp followed with ⟨taken, step, followed⟩
      exact induction (reaches.tail (step_of_step? step)) followed

/-! ## All interleavings -/

/-- All requests of a call, up to where its guard is given back, go through one client. -/
def OneClientEach (log : List (Note Place Client)) : Prop :=
  ∀ before between behind place request answer client later reply other,
    log = before ++ .asked place request answer client ::
      (between ++ .asked place later reply other :: behind) →
    .gaveBack place .shared ∉ between → other = client

/-- However calls, waits and rotations share the client: all requests of a call go through one
client, and they are those of its conversation. The client changes only while no call is inside,
and only to one that a rotation has been able to build, which such a rotation sees to before it
ends. Nobody asks for a guard who has one. Until all have finished somebody goes on, whatever the
lock makes of those who wait, and nobody goes on for ever. -/
theorem client_changes_between_calls [Finite Place] (gateway : Gateway)
    (build : Option Bytes → Option Client) (discipline : Discipline Place)
    (duties : Place → Duty) (client : Client) :
    let start := opening gateway build duties client
    (∀ log sharing, Reaches discipline start log sharing →
      OneClientEach log ∧
      (∀ place, ((duties place).conversation gateway build).Leads (exchangesOf log place)
        (sharing.rest place).forget) ∧
      (∀ note next, Step discipline sharing note next → Careful build duties sharing note next) ∧
      (∀ place made, (duties place).Builds build made → (sharing.rest place).isDone = true →
        .put place made ∈ log) ∧
      (sharing.Finished ∨ ∃ note next, Step discipline sharing note next)) ∧
    ¬∃ states : Nat → Sharing Place Client, states 0 = start ∧
      ∀ time, ∃ note, Step discipline (states time) note (states (time + 1)) := by
  intro start
  have inOrder := InOrder.opening gateway build duties client
  constructor
  · intro log sharing reaches
    have kept := inOrder.reaches reaches
    refine ⟨?_, ?_, fun note next step => step.careful kept, ?_, ?_⟩
    · intro before between behind place request answer client later reply other split stays
      exact reaches.client_unchanged inOrder split stays
    · intro place
      rw [← Duty.forget_errand]
      exact reaches.leads place
    · intro place made builds done
      rcases reaches.puts (builds.puts gateway) with put | left
      · exact put
      · exact absurd left (Errand.not_puts_of_isDone done)
    · by_cases finished : sharing.Finished
      · exact Or.inl finished
      · exact Or.inr (kept.goesOn discipline finished)
  · intro endless
    rcases endless with ⟨states, _, goes⟩
    exact (wellFounded_iff_isEmpty_descending_chain.mp (wellFounded_step discipline)).false
      ⟨states, goes⟩

def trusting (bundle : Option Bytes) : Option (Option Bytes) :=
  if bundle.all CertificateBundle.isUsable then some bundle else none

/-- A change of power caps in two requests, a wait, and two rotations, one of which fails. The
first rotation waits for the change to be over; the wait, which has asked for its guard after it,
polls through the new client. -/
theorem wait_polls_through_new_client :
    let gateway : Gateway := { settings := {}, simulation := false }
    let node : Target :=
      { xname := "x0", kind := .node, host := "b", resource := .computerSystem
        basePath := "/system", powerPath := "/power" }
    let garbled := Text.utf8 "-----BEGIN CERTIFICATE-----\n@@\n-----END CERTIFICATE-----"
    let duties : Fin 4 → Duty := fun
      | 0 => .call (.writeCaps []) node
      | 1 => .awaitOff node 1 0
      | 2 => .rotate none
      | 3 => .rotate (some garbled)
    let read := gateway.request node .get "/power"
    let written := gateway.jsonRequest node .patch "/power" []
    let polled := gateway.request node .get "/system"
    let power : Answer := .reply ⟨200, [], Text.utf8 "\x7b\x7d"⟩
    let isOff : Answer := .reply ⟨200, [], Text.utf8 "\x7b\"PowerState\":\"Off\"\x7d"⟩
    let old := some (Text.utf8 "old")
    let log : List (Note (Fin 4) (Option Bytes)) := [
      .applied 0 .shared, .admitted 0 .shared, .asked 0 read power old, .applied 2 .alone,
      .applied 1 .shared, .asked 0 written power old, .gaveBack 0 .shared, .admitted 2 .alone,
      .put 2 none, .gaveBack 2 .alone, .admitted 1 .shared, .asked 1 polled isOff none,
      .gaveBack 1 .shared, .applied 3 .alone, .admitted 3 .alone, .gaveBack 3 .alone]
    ∃ sharing, Reaches (.fifo (Fin 4)) (opening gateway trusting duties old) log sharing ∧
      OneClientEach log ∧ .put 2 none ∈ log ∧ sharing.client = none ∧ sharing.Finished := by
  intro gateway node garbled duties read written polled power isOff old log
  let turns : List (Fin 4 × Answer) := [(0, power), (0, power), (0, power), (2, power),
    (1, power), (0, power), (0, power), (2, power), (2, power), (2, power), (1, power),
    (1, isOff), (1, power), (3, power), (3, power), (3, power)]
  let start := opening gateway trusting duties old
  have followed : (follow turns ([], start)).map (fun reached =>
      (reached.1, reached.2.client, decide (∀ place, (reached.2.rest place).isDone = true))) =
        some (log, none, true) := by
    decide +kernel
  rcases Option.map_eq_some_iff.mp followed with ⟨⟨final, sharing⟩, reached, same⟩
  simp only [Prod.mk.injEq, decide_eq_true_eq] at same
  rcases same with ⟨rfl, client, finished⟩
  have reaches : Reaches (.fifo (Fin 4)) start log sharing := reaches_follow .refl reached
  have shared := (client_changes_between_calls gateway trusting (.fifo (Fin 4)) duties old).1
    log sharing reaches
  have put := shared.2.2.2.1 2 none ⟨none, rfl, rfl⟩ (finished 2)
  exact ⟨sharing, reaches, shared.1, put, client, finished⟩

end Sharing

end ClusterPower
