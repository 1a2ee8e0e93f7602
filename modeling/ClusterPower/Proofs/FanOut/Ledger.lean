import ClusterPower.Proofs.Bmc.OwnTarget
import ClusterPower.Proofs.FanOut.Traffic

/-!
The ledger of a caller: the tickets of its jobs, wherever they are, together with
those of the reports it has been given. No step changes it, which is why no job is
ever lost or reported twice, and why a channel as large as the request never fills.
-/

namespace ClusterPower.FanOut

/-! ## What callers hold -/

namespace Caller

def tickets (caller : Caller) : Multiset Ticket :=
  ↑(caller.ahead.map Job.ticket) + ↑(caller.hand.toList.map Job.ticket) +
    ↑(caller.received.map JobReport.ticket) + ↑(caller.held.map JobReport.ticket) +
    ↑(caller.lost.map JobReport.ticket)

variable (caller : Caller) (report : JobReport) (job : Job)

@[simp] theorem post_ahead : (caller.post report).ahead = caller.ahead := by
  unfold post
  split <;> rfl

@[simp] theorem post_hand : (caller.post report).hand = caller.hand := by
  unfold post
  split <;> rfl

@[simp] theorem post_count : (caller.post report).count = caller.count := by
  unfold post
  split <;> rfl

@[simp] theorem post_refused : (caller.post report).refused = caller.refused := by
  unfold post
  split <;> rfl

@[simp] theorem post_room : (caller.post report).room = caller.room := by
  unfold post
  split <;> rfl

@[simp] theorem post_received : (caller.post report).received = caller.received := by
  unfold post
  split <;> rfl

theorem tickets_post : (caller.post report).tickets = caller.tickets + {report.ticket} := by
  unfold post
  split
  · simp only [tickets, coe_map_concat]
    abel
  · simp only [tickets, coe_map_concat]
    abel

theorem foldl_post_keeps {Fact : Type} (fact : Caller → Fact)
    (kept : ∀ caller report, fact (Caller.post caller report) = fact caller)
    (reports : List JobReport) : fact (reports.foldl post caller) = fact caller := by
  induction reports generalizing caller with
  | nil => rfl
  | cons report rest induction => exact (induction _).trans (kept _ _)

theorem tickets_foldl_post (reports : List JobReport) :
    (reports.foldl post caller).tickets =
      caller.tickets + ↑(reports.map JobReport.ticket) := by
  induction reports generalizing caller with
  | nil => exact (add_zero _).symm
  | cons report rest induction =>
      rw [List.foldl_cons, induction, tickets_post, coe_map_cons, add_assoc]

theorem tickets_refuse : (caller.refuse job).tickets = caller.tickets + {job.ticket} :=
  tickets_post _ _

theorem tickets_advance {job : Job} {rest : List Job} {caller : Caller}
    (next : caller.ahead = job :: rest) :
    caller.tickets = { caller with ahead := rest }.tickets + {job.ticket} := by
  simp only [tickets, next, coe_map_cons]
  abel

theorem tickets_handOver {job : Job} {caller : Caller} (hand : caller.hand = some job) :
    caller.tickets = { caller with hand := none }.tickets + {job.ticket} := by
  simp only [tickets, hand, Option.toList_some, Option.toList_none, List.map_cons,
    List.map_nil, Multiset.coe_singleton, Multiset.coe_nil]
  abel

theorem tickets_receive {report : JobReport} {rest : List JobReport} {caller : Caller}
    (arrived : caller.held = report :: rest) :
    { caller with held := rest, received := caller.received ++ [report] }.tickets =
      caller.tickets := by
  simp only [tickets, arrived, coe_map_cons, coe_map_concat]
  abel

/-- A caller whose channel has lost nothing, unless it was given more than there is
room for. -/
def LosesOnlyExcess (caller : Caller) : Prop :=
  caller.lost = [] ∨ caller.room < caller.tickets.card

variable {caller}

theorem card_held_le (caller : Caller) : caller.held.length ≤ caller.tickets.card := by
  simp only [tickets, Multiset.card_add, Multiset.coe_card, List.length_map]
  omega

theorem losesOnlyExcess_post (excess : caller.LosesOnlyExcess) :
    (caller.post report).LosesOnlyExcess := by
  have grown := congrArg Multiset.card (caller.tickets_post report)
  rw [Multiset.card_add, Multiset.card_singleton] at grown
  have held := caller.card_held_le
  rcases excess with nothing | more
  · by_cases free : caller.held.length < caller.room
    · left
      simpa [post, free] using nothing
    · right
      rw [post_room, grown]
      omega
  · right
    rw [post_room, grown]
    omega

theorem losesOnlyExcess_foldl_post (excess : caller.LosesOnlyExcess)
    (reports : List JobReport) : (reports.foldl post caller).LosesOnlyExcess := by
  induction reports generalizing caller with
  | nil => exact excess
  | cons report rest induction => exact induction (losesOnlyExcess_post report excess)

end Caller

/-! ## Ledgers -/

variable {Place : Type} [DecidableEq Place] {owner : Nat → Option Place}
  {gateway : Gateway} {traffic after : Traffic Place}

namespace Traffic

def ledger (owner : Nat → Option Place) (traffic : Traffic Place) (place : Place) :
    Multiset Ticket :=
  (traffic.callers place).tickets +
    traffic.pool.tickets.filter fun ticket => owner ticket.number = some place

section Telling

variable (traffic) (job : Job) (report : JobReport) (reports : List JobReport)
  (change : Caller → Caller) (place : Place)

@[simp] theorem setCaller_callers (actor : Place) (caller : Caller) :
    (traffic.setCaller actor caller).callers place =
      if place = actor then caller else traffic.callers place := by
  simp [setCaller, Function.update_apply]

@[simp] theorem setCaller_pool (actor : Place) (caller : Caller) :
    (traffic.setCaller actor caller).pool = traffic.pool := rfl

@[simp] theorem tell_pool : (traffic.tell owner job change).pool = traffic.pool := by
  unfold tell
  split <;> rfl

theorem tell_callers :
    (traffic.tell owner job change).callers place =
      if owner job.number = some place then change (traffic.callers place)
      else traffic.callers place := by
  unfold tell
  split
  · next other owned =>
    rw [owned, setCaller_callers]
    by_cases same : place = other
    · simp [same]
    · simp [same, Ne.symm same]
  · next unowned => simp [unowned]

@[simp] theorem postAll_pool : (traffic.postAll owner reports).pool = traffic.pool := by
  induction reports generalizing traffic with
  | nil => rfl
  | cons report rest induction => exact (induction _).trans (tell_pool _ _ _)

theorem postAll_callers :
    (traffic.postAll owner reports).callers place =
      (reports.filter fun report => owner report.job.number = some place).foldl
        Caller.post (traffic.callers place) := by
  induction reports generalizing traffic with
  | nil => rfl
  | cons report rest induction =>
      refine (induction _).trans ?_
      rw [post, tell_callers]
      by_cases owned : owner report.job.number = some place
      · rw [if_pos owned, List.filter_cons_of_pos (by simpa using owned), List.foldl_cons]
      · rw [if_neg owned, List.filter_cons_of_neg (by simpa using owned)]

theorem tickets_postAll :
    ((traffic.postAll owner reports).callers place).tickets =
      (traffic.callers place).tickets +
        Multiset.filter (fun ticket => owner ticket.number = some place)
          ↑(reports.map JobReport.ticket) := by
  rw [postAll_callers, Caller.tickets_foldl_post, Multiset.filter_coe, List.filter_map]
  rfl

end Telling

/-! ## What every step keeps -/

theorem filter_ticket (job : Job) (place : Place) :
    Multiset.filter (fun ticket => owner ticket.number = some place) {job.ticket} =
      if owner job.number = some place then {job.ticket} else 0 :=
  Multiset.filter_singleton _

theorem ledger_setCaller (actor : Place) {caller : Caller}
    (kept : caller.tickets = (traffic.callers actor).tickets) (place : Place) :
    (traffic.setCaller actor caller).ledger owner place = traffic.ledger owner place := by
  unfold ledger
  rw [setCaller_callers, setCaller_pool]
  split
  · next same => rw [same, kept]
  · rfl

theorem ticket_mem_of_hand {place : Place} {job : Job}
    (hand : (traffic.callers place).hand = some job) :
    job.ticket ∈ traffic.ledger owner place := by
  rw [ledger, Caller.tickets_handOver hand]
  simp

theorem ledger_handOver {actor : Place} {job : Job} {pool : Pool} {caller : Caller}
    (hand : (traffic.callers actor).hand = some job) (own : owner job.number = some actor)
    (tickets : pool.tickets = traffic.pool.tickets + {job.ticket})
    (emptied : caller.tickets = { traffic.callers actor with hand := none }.tickets)
    (place : Place) :
    ({ traffic with pool }.setCaller actor caller).ledger owner place =
      traffic.ledger owner place := by
  unfold ledger
  rw [setCaller_callers, setCaller_pool, tickets, Multiset.filter_add, filter_ticket, own]
  split
  · next same =>
    rw [same, if_pos rfl, emptied, Caller.tickets_handOver hand]
    abel
  · next other => rw [if_neg fun same => other (Option.some.inj same).symm, add_zero]

/-- What holds of all traffic that follows from an opening. -/
structure Orderly (owner : Nat → Option Place) (traffic : Traffic Place) : Prop where
  sound : traffic.pool.Sound
  own : ∀ place, ∀ ticket ∈ traffic.ledger owner place, owner ticket.number = some place
  unblocked : ∀ job outcome, .reporting job outcome ∈ traffic.pool.workers →
    owner job.number = none
  fits : ∀ place, (traffic.ledger owner place).card ≤ (traffic.callers place).room
  nothingLost : ∀ place, (traffic.callers place).lost = []
  willing : traffic.pool.stopped = false → ∀ place, (traffic.callers place).refused = []
  patient : ∀ place, (traffic.callers place).received.length ≤ (traffic.callers place).count

end Traffic

theorem Move.ledger_eq (move : Move owner gateway traffic after)
    (orderly : traffic.Orderly owner) (place : Place) :
    after.ledger owner place = traffic.ledger owner place := by
  cases move with
  | refuse next free entered stopped =>
      apply Traffic.ledger_setCaller
      rw [Caller.tickets_refuse, ← Caller.tickets_advance next]
  | prepare next free entered going =>
      apply Traffic.ledger_setCaller
      simp only [Caller.tickets, next, free, Option.toList_some, Option.toList_none,
        coe_map_cons, Job.ticket_enqueue, List.map_nil, Multiset.coe_nil]
      abel
  | @accept actor job _ hand sent =>
      rcases Pool.send_accepted sent with ⟨_, _, rfl⟩
      have own := orderly.own actor _ (Traffic.ticket_mem_of_hand hand)
      refine Traffic.ledger_handOver hand own (Pool.tickets_enqueue job) ?_ place
      rfl
  | @await actor job _ hand sent =>
      rcases Pool.send_waiting sent with ⟨_, _, rfl⟩
      have own := orderly.own actor _ (Traffic.ticket_mem_of_hand hand)
      exact Traffic.ledger_handOver hand own (Pool.tickets_await job) rfl place
  | bounce hand sent =>
      apply Traffic.ledger_setCaller
      rw [Caller.tickets_refuse, ← Caller.tickets_handOver hand]
  | enter entered =>
      rcases Pool.enter?_some entered with ⟨found, _, _, rfl⟩
      unfold Traffic.ledger
      rw [Traffic.tell_callers, Traffic.tell_pool, Pool.tickets_enter found]
      split <;> rfl
  | @dismiss index job _ dismissed =>
      rcases Pool.dismiss?_some dismissed with ⟨found, _, rfl⟩
      unfold Traffic.ledger
      rw [Traffic.tell_callers, Traffic.tell_pool, Pool.tickets_dismiss _ found,
        Multiset.filter_add, Traffic.filter_ticket]
      split
      · rw [Caller.tickets_refuse]
        abel
      · rw [add_zero]
  | turn turn =>
      unfold Traffic.ledger
      rw [Traffic.tickets_postAll, Traffic.postAll_pool,
        turn.conserves (fun ticket => owner ticket.number = some place) orderly.sound
          (fun job outcome ends => gateway.regards_call job.command job.target outcome ends)
          (fun job outcome reporting ticket same owned => by
            rw [same, orderly.unblocked job outcome reporting] at owned
            cases owned)]
      abel

theorem Step.ledger_eq (step : Step owner gateway traffic after)
    (orderly : traffic.Orderly owner) (place : Place) :
    after.ledger owner place = traffic.ledger owner place := by
  cases step with
  | move move => exact move.ledger_eq orderly place
  | read read =>
      cases read with
      | receive submitted wanted arrived =>
          exact Traffic.ledger_setCaller _ (Caller.tickets_receive arrived) place
  | stop going => rfl

end ClusterPower.FanOut
