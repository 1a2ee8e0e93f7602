import ClusterPower.Proofs.FanOut.Ledger

/-!
What every step keeps. `Caller.Progress` says all that a step can do to one caller;
what holds of all reachable traffic follows from it and from the ledgers.
-/

namespace ClusterPower.FanOut

variable {Place : Type} [DecidableEq Place] {owner : Nat → Option Place}
  {gateway : Gateway} {traffic after : Traffic Place} {place : Place}

/-! ## One caller -/

/-- What a step can make of a caller, with the pool stopped or not. -/
inductive Caller.Progress (stopped : Bool) (caller : Caller) : Caller → Prop
  | refuse {job rest} (next : caller.ahead = job :: rest) (refused : stopped = true) :
      Progress stopped caller ({ caller with ahead := rest }.refuse job)
  | prepare {job rest} (next : caller.ahead = job :: rest) :
      Progress stopped caller { caller with ahead := rest, hand := some job.enqueue }
  | accept {job} (hand : caller.hand = some job) :
      Progress stopped caller { caller with hand := none }.accept
  | await {job} (hand : caller.hand = some job) :
      Progress stopped caller { caller with hand := none }
  | bounce {job} (hand : caller.hand = some job) (refused : stopped = true) :
      Progress stopped caller ({ caller with hand := none }.refuse job)
  | enter : Progress stopped caller caller.accept
  | dismiss (job : Job) (refused : stopped = true) :
      Progress stopped caller (caller.refuse job)
  | receive {report rest} (wanted : caller.received.length < caller.count)
      (arrived : caller.held = report :: rest) :
      Progress stopped caller
        { caller with held := rest, received := caller.received ++ [report] }
  | post (reports : List JobReport) :
      Progress stopped caller (reports.foldl Caller.post caller)

theorem stopped_of_closed {pool : Pool} (sound : pool.Sound) (closed : pool.closed = true) :
    pool.stopped = true := by
  cases stopped : pool.stopped with
  | true => rfl
  | false => rw [sound.openUntilStopped stopped] at closed; cases closed

theorem Traffic.progress_setCaller {stopped : Bool} {actor : Place} {caller : Caller}
    (progress : (traffic.callers actor).Progress stopped caller) (place : Place) :
    (traffic.callers place).Progress stopped ((traffic.setCaller actor caller).callers place) := by
  rw [setCaller_callers]
  split
  · next same => exact same ▸ progress
  · exact .post []

theorem Traffic.progress_tell {stopped : Bool} {pool : Pool} {job : Job}
    {change : Caller → Caller}
    (progress : ∀ caller : Caller, caller.Progress stopped (change caller)) (place : Place) :
    (traffic.callers place).Progress stopped
      (({ traffic with pool }.tell owner job change).callers place) := by
  rw [tell_callers]
  split
  · exact progress _
  · exact .post []

theorem Move.progress (move : Move owner gateway traffic after)
    (sound : traffic.pool.Sound) (place : Place) :
    (traffic.callers place).Progress traffic.pool.stopped (after.callers place) := by
  cases move with
  | refuse next free entered stopped =>
      exact Traffic.progress_setCaller (.refuse next stopped) place
  | prepare next free entered going =>
      exact Traffic.progress_setCaller (.prepare next) place
  | accept hand sent => exact Traffic.progress_setCaller (.accept hand) place
  | await hand sent => exact Traffic.progress_setCaller (.await hand) place
  | bounce hand sent =>
      have stopped := stopped_of_closed sound (Pool.send_refused sent).1
      exact Traffic.progress_setCaller (.bounce hand stopped) place
  | enter entered => exact Traffic.progress_tell (fun _ => .enter) place
  | @dismiss index job _ dismissed =>
      have stopped := stopped_of_closed sound (Pool.dismiss?_some dismissed).2.1
      exact Traffic.progress_tell (fun _ => .dismiss job stopped) place
  | turn turn =>
      rw [Traffic.postAll_callers]
      exact .post _

theorem Step.progress (step : Step owner gateway traffic after)
    (sound : traffic.pool.Sound) (place : Place) :
    (traffic.callers place).Progress traffic.pool.stopped (after.callers place) := by
  cases step with
  | move move => exact move.progress sound place
  | read read =>
      cases read with
      | receive submitted wanted arrived =>
          exact Traffic.progress_setCaller (.receive wanted arrived) place
  | stop going => exact .post []

namespace Caller.Progress

variable {stopped : Bool} {caller after : Caller}

theorem room_eq (progress : caller.Progress stopped after) : after.room = caller.room := by
  cases progress with
  | refuse | bounce | dismiss => exact post_room _ _
  | prepare | accept | await | enter | receive => rfl
  | post reports => exact foldl_post_keeps _ Caller.room post_room reports

theorem losesOnlyExcess (progress : caller.Progress stopped after)
    (nothing : caller.lost = []) : after.LosesOnlyExcess := by
  cases progress with
  | refuse | bounce | dismiss => exact losesOnlyExcess_post _ (Or.inl nothing)
  | prepare | accept | await | enter | receive => exact Or.inl nothing
  | post reports => exact losesOnlyExcess_foldl_post (Or.inl nothing) reports

theorem willing (progress : caller.Progress stopped after) (going : stopped = false)
    (willing : caller.refused = []) : after.refused = [] := by
  cases progress with
  | refuse _ refused | bounce _ refused | dismiss _ refused => rw [going] at refused; cases refused
  | prepare | accept | await | enter | receive => exact willing
  | post reports => rw [foldl_post_keeps _ Caller.refused post_refused, willing]

theorem refused_le (progress : caller.Progress stopped after) :
    caller.refused.length ≤ after.refused.length := by
  cases progress with
  | refuse | bounce | dismiss => simp [Caller.refuse]
  | prepare | accept | await | enter | receive => exact Nat.le_refl _
  | post reports => rw [foldl_post_keeps _ Caller.refused post_refused]

theorem patient (progress : caller.Progress stopped after)
    (patient : caller.received.length ≤ caller.count) :
    after.received.length ≤ after.count := by
  cases progress with
  | refuse | bounce | dismiss => simpa [Caller.refuse] using patient
  | accept | enter => exact Nat.le_succ_of_le patient
  | prepare | await => exact patient
  | receive wanted => simpa using Nat.succ_le_of_lt wanted
  | post reports =>
      rwa [foldl_post_keeps _ Caller.received post_received,
        foldl_post_keeps _ Caller.count post_count]

end Caller.Progress

/-! ## The pool -/

theorem Move.pool_cases (move : Move owner gateway traffic after) :
    (∃ queue waiting kept, after.pool = { traffic.pool with queue, waiting, kept } ∧
      (traffic.pool.queue.length ≤ traffic.pool.capacity →
        queue.length ≤ traffic.pool.capacity)) ∨
    ∃ reports, Pool.Turn (fun job => gateway.call job.command job.target)
      (traffic.HasRoom owner) traffic.pool reports after.pool := by
  cases move with
  | refuse | prepare | bounce => exact Or.inl ⟨_, _, _, rfl, id⟩
  | accept hand sent =>
      rcases Pool.send_accepted sent with ⟨_, free, rfl⟩
      refine Or.inl ⟨_, _, _, rfl, fun _ => ?_⟩
      rw [List.length_append]
      exact Pool.length_lt_of_hasRoom free
  | await hand sent =>
      rcases Pool.send_waiting sent with ⟨_, _, rfl⟩
      exact Or.inl ⟨_, _, _, rfl, id⟩
  | enter entered =>
      rcases Pool.enter?_some entered with ⟨_, admitted, unclosed, rfl⟩
      refine Or.inl ⟨_, _, _, Traffic.tell_pool _ _ _, fun _ => ?_⟩
      rw [List.length_append]
      exact Pool.length_lt_of_granted unclosed admitted
  | dismiss dismissed =>
      rcases Pool.dismiss?_some dismissed with ⟨_, _, rfl⟩
      exact Or.inl ⟨_, _, _, Traffic.tell_pool _ _ _, id⟩
  | turn turn =>
      rw [Traffic.postAll_pool]
      exact Or.inr ⟨_, turn⟩

theorem Step.pool_cases (step : Step owner gateway traffic after) :
    (∃ queue waiting kept, after.pool = { traffic.pool with queue, waiting, kept } ∧
      (traffic.pool.queue.length ≤ traffic.pool.capacity →
        queue.length ≤ traffic.pool.capacity)) ∨
    (∃ reports, Pool.Turn (fun job => gateway.call job.command job.target)
      (traffic.HasRoom owner) traffic.pool reports after.pool) ∨
    after.pool = traffic.pool.stop := by
  cases step with
  | move move => exact or_assoc.mp (Or.inl move.pool_cases)
  | read read =>
      cases read with
      | receive submitted wanted arrived => exact Or.inl ⟨_, _, _, rfl, id⟩
  | stop going => exact Or.inr (Or.inr rfl)

theorem Step.going (step : Step owner gateway traffic after)
    (going : after.pool.stopped = false) : traffic.pool.stopped = false := by
  rcases step.pool_cases with ⟨_, _, _, same, _⟩ | ⟨_, turn⟩ | stopped
  · rwa [same] at going
  · rwa [turn.stopped_eq] at going
  · rw [stopped] at going
    cases going

theorem Step.sound (step : Step owner gateway traffic after)
    (sound : traffic.pool.Sound) : after.pool.Sound := by
  rcases step.pool_cases with ⟨_, _, _, same, bounded⟩ | ⟨_, turn⟩ | stopped
  · rw [same]
    exact { sound with bounded := bounded sound.bounded }
  · exact turn.sound sound
  · rw [stopped]
    exact Pool.sound_stop sound

/-! ## All traffic -/

namespace Traffic.Orderly

variable (orderly : traffic.Orderly owner)

include orderly

theorem hasRoom {job : Job} (member : job.ticket ∈ traffic.pool.tickets) :
    traffic.HasRoom owner job := by
  intro place owned
  have fits := orderly.fits place
  have outstanding : 0 < Multiset.card
      (traffic.pool.tickets.filter fun ticket => owner ticket.number = some place) :=
    Multiset.card_pos_iff_exists_mem.mpr ⟨job.ticket, Multiset.mem_filter.mpr ⟨member, owned⟩⟩
  have held := (traffic.callers place).card_held_le
  rw [ledger, Multiset.card_add] at fits
  omega

theorem free (job : Job) (outcome : Outcome)
    (member : Worker.reporting job outcome ∈ traffic.pool.workers) :
    traffic.HasRoom owner job := by
  intro place owned
  rw [orderly.unblocked job outcome member] at owned
  cases owned

theorem step (step : Step owner gateway traffic after) : after.Orderly owner where
  sound := step.sound orderly.sound
  own place ticket member := by
    rw [step.ledger_eq orderly place] at member
    exact orderly.own place ticket member
  unblocked job outcome member := by
    rcases step.pool_cases with ⟨_, _, _, same, _⟩ | ⟨_, turn⟩ | stopped
    · rw [same] at member
      exact orderly.unblocked job outcome member
    · rcases turn.reporting member with member | ⟨full, _, calling⟩
      · exact orderly.unblocked job outcome member
      · have inside := Pool.ticket_mem_of_worker calling (Multiset.mem_singleton_self _)
        exact absurd (orderly.hasRoom inside) full
    · rw [stopped] at member
      exact orderly.unblocked job outcome member
  fits place := by
    rw [step.ledger_eq orderly place, (step.progress orderly.sound place).room_eq]
    exact orderly.fits place
  nothingLost place := by
    have progress := step.progress orderly.sound place
    rcases progress.losesOnlyExcess (orderly.nothingLost place) with nothing | excess
    · exact nothing
    · have fits := orderly.fits place
      rw [← step.ledger_eq orderly place, ledger, Multiset.card_add] at fits
      rw [progress.room_eq] at excess
      omega
  willing going place := by
    have before := step.going going
    exact (step.progress orderly.sound place).willing before (orderly.willing before place)
  patient place := (step.progress orderly.sound place).patient (orderly.patient place)

theorem reaches (reaches : Reaches owner gateway traffic after) : after.Orderly owner := by
  induction reaches with
  | refl => exact orderly
  | tail _ step induction => exact induction.step step

end Traffic.Orderly

/-! ## Openings -/

theorem Request.length_calls_le (request : Request) :
    request.calls.length ≤ request.targets.length := by
  cases request with
  | same command targets => simp [calls, callsOf, Request.targets]
  | byName commands targets => exact List.length_filterMap_le _ _

theorem Request.Makes.length_eq {request : Request} {jobs : List Job}
    (makes : request.Makes jobs) : jobs.length = request.calls.length := by
  rw [← makes.calls, List.length_map]

namespace Opens

variable {requests : Place → Request} (opens : Opens owner requests traffic)

include opens

theorem ledger_eq (place : Place) :
    traffic.ledger owner place = ↑((traffic.callers place).ahead.map Job.ticket) := by
  rcases opens.opened place with ⟨jobs, _, _, caller⟩
  have nothing : traffic.pool.tickets.filter
      (fun ticket => owner ticket.number = some place) = 0 := by
    rw [Multiset.filter_eq_nil]
    intro ticket member owned
    rw [opens.others ticket member] at owned
    cases owned
  rw [Traffic.ledger, nothing, caller]
  simp [Caller.tickets, Caller.opened]

theorem orderly : traffic.Orderly owner where
  sound := opens.sound
  own place ticket member := by
    rcases opens.opened place with ⟨jobs, _, own, caller⟩
    rw [opens.ledger_eq, caller] at member
    rcases List.mem_map.mp (Multiset.mem_coe.mp member) with ⟨job, made, rfl⟩
    exact own job made
  unblocked job outcome member := by
    rcases List.getElem?_of_mem member with ⟨index, found⟩
    exact opens.others job.ticket
      (Pool.ticket_mem_of_worker found (Multiset.mem_singleton_self _))
  fits place := by
    rcases opens.opened place with ⟨jobs, makes, _, caller⟩
    rw [opens.ledger_eq, caller, Multiset.coe_card, List.length_map]
    have made := makes.length_eq
    have calls := (requests place).length_calls_le
    simp only [Caller.opened]
    omega
  nothingLost place := by
    rcases opens.opened place with ⟨jobs, _, _, caller⟩
    rw [caller]
    rfl
  willing _ place := by
    rcases opens.opened place with ⟨jobs, _, _, caller⟩
    rw [caller]
    rfl
  patient place := by
    rcases opens.opened place with ⟨jobs, _, _, caller⟩
    rw [caller]
    exact Nat.le_refl 0

end Opens

theorem Reaches.ledger_eq (reaches : Reaches owner gateway traffic after)
    (orderly : traffic.Orderly owner) (place : Place) :
    after.ledger owner place = traffic.ledger owner place := by
  induction reaches with
  | refl => rfl
  | tail before step induction =>
      rw [step.ledger_eq (orderly.reaches before), induction]

end ClusterPower.FanOut
