import ClusterPower.Proofs.FanOut.Delivery
import ClusterPower.Proofs.FanOut.Dialogue

/-!
Callers of which nothing more comes. A caller that found the pool stopped, and one that has
returned while the pool goes on, have no job in the pool, and never get one there again. So
from then on nothing is asked for such a caller, and it reads nothing.
-/

namespace ClusterPower.FanOut

variable {Place : Type} [DecidableEq Place] {owner : Nat → Option Place} {gateway : Gateway}
  {traffic after : Traffic Place} {place : Place}

/-! ## Spent callers -/

/-- The caller has no job in the pool, can bring none there, and has read all that it waits
for. -/
structure Traffic.Spent (owner : Nat → Option Place) (traffic : Traffic Place) (place : Place) :
    Prop where
  away : traffic.pool.tickets.filter (fun ticket => owner ticket.number = some place) = 0
  hand : (traffic.callers place).hand = none
  barred : traffic.pool.stopped = true ∨ (traffic.callers place).ahead = []
  collected : (traffic.callers place).count ≤ (traffic.callers place).received.length

namespace Traffic.Spent

variable (spent : traffic.Spent owner place)

include spent

theorem unowned {job : Job} (member : job.ticket ∈ traffic.pool.tickets) :
    owner job.number ≠ some place :=
  Multiset.filter_eq_nil.mp spent.away job.ticket member

theorem emptyHanded {actor : Place} {job : Job}
    (hand : (traffic.callers actor).hand = some job) : place ≠ actor := by
  rintro rfl
  rw [spent.hand] at hand
  cases hand

theorem cases_caller (move : Move owner gateway traffic after) :
    (∃ job rest, (traffic.callers place).ahead = job :: rest ∧
      after.callers place = { traffic.callers place with ahead := rest }.refuse job) ∨
    ∃ reports : List JobReport,
      after.callers place = reports.foldl Caller.post (traffic.callers place) := by
  have set {actor : Place} {caller : Caller} {pool : Pool} (other : place ≠ actor) :
      (({ traffic with pool } : Traffic Place).setCaller actor caller).callers place =
        traffic.callers place := by
    rw [setCaller_callers, if_neg other]
  have told {job : Job} {change : Caller → Caller} {pool : Pool}
      (unowned : owner job.number ≠ some place) :
      (({ traffic with pool } : Traffic Place).tell owner job change).callers place =
        traffic.callers place := by
    rw [tell_callers, if_neg unowned]
  cases move with
  | @refuse actor job rest next free entered stopped =>
      by_cases same : place = actor
      · subst same
        exact Or.inl ⟨job, rest, next, by rw [setCaller_callers, if_pos rfl]⟩
      · exact Or.inr ⟨[], set same⟩
  | @prepare actor job rest next free entered going =>
      have other : place ≠ actor := by
        rintro rfl
        rcases spent.barred with stopped | nothing
        · rw [going] at stopped
          cases stopped
        · rw [nothing] at next
          cases next
      exact Or.inr ⟨[], set other⟩
  | accept hand sent => exact Or.inr ⟨[], set (spent.emptyHanded hand)⟩
  | await hand sent => exact Or.inr ⟨[], set (spent.emptyHanded hand)⟩
  | bounce hand sent => exact Or.inr ⟨[], set (spent.emptyHanded hand)⟩
  | enter entered =>
      rcases Pool.enter?_some entered with ⟨found, _, _, rfl⟩
      have inPool := spent.unowned (Pool.ticket_mem_of_mem
        (List.mem_append_right _ (List.mem_of_getElem? found)))
      exact Or.inr ⟨[], told inPool⟩
  | dismiss dismissed =>
      rcases Pool.dismiss?_some dismissed with ⟨found, _, rfl⟩
      have inPool := spent.unowned (Pool.ticket_mem_of_mem
        (List.mem_append_right _ (List.mem_of_getElem? found)))
      exact Or.inr ⟨[], told inPool⟩
  | turn turn => exact Or.inr ⟨_, postAll_callers _ _ _⟩

theorem move (orderly : traffic.Orderly owner) (move : Move owner gateway traffic after) :
    after.Spent owner place := by
  have ledger := move.ledger_eq orderly place
  have stays : traffic.pool.stopped = true → after.pool.stopped = true := by
    intro stopped
    rcases move.pool_cases with ⟨_, _, _, same, _⟩ | ⟨_, turn⟩
    · rw [same, stopped]
    · rw [turn.stopped_eq, stopped]
  simp only [Traffic.ledger, spent.away, add_zero] at ledger
  rcases spent.cases_caller move with ⟨job, rest, next, refused⟩ | ⟨reports, posted⟩
  · rw [refused, Caller.tickets_refuse, ← Caller.tickets_advance next] at ledger
    have stopped := spent.barred.resolve_right (by rw [next]; exact List.cons_ne_nil _ _)
    refine ⟨by simpa using ledger, ?_, Or.inl (stays stopped), ?_⟩
    · rw [refused]
      simpa [Caller.refuse] using spent.hand
    · rw [refused]
      simpa [Caller.refuse] using spent.collected
  · rw [posted, Caller.tickets_foldl_post, add_assoc] at ledger
    have nothing := congrArg Multiset.card (add_eq_left.mp ledger)
    rw [Multiset.card_add, Multiset.card_zero] at nothing
    refine ⟨Multiset.card_eq_zero.mp (by omega), ?_, ?_, ?_⟩
    · rw [posted, Caller.foldl_post_keeps _ Caller.hand Caller.post_hand, spent.hand]
    · rw [posted, Caller.foldl_post_keeps _ Caller.ahead Caller.post_ahead]
      exact spent.barred.imp_left stays
    · rw [posted, Caller.foldl_post_keeps _ Caller.count Caller.post_count,
        Caller.foldl_post_keeps _ Caller.received Caller.post_received]
      exact spent.collected

theorem unread (read : Read owner traffic after) :
    after.callers place = traffic.callers place := by
  cases read with
  | @receive actor report rest submitted wanted arrived =>
      have other : place ≠ actor := by
        rintro rfl
        exact absurd wanted (Nat.not_lt.mpr spent.collected)
      rw [setCaller_callers, if_neg other]

theorem step (orderly : traffic.Orderly owner) (step : Step owner gateway traffic after) :
    after.Spent owner place := by
  cases step with
  | move move => exact spent.move orderly move
  | read read =>
      have same := spent.unread read
      have pool : after.pool = traffic.pool := by cases read; rfl
      exact ⟨by rw [pool, spent.away], by rw [same, spent.hand],
        by rw [pool, same]; exact spent.barred, by rw [same]; exact spent.collected⟩
  | stop going => exact { spent with barred := Or.inl rfl }

end Traffic.Spent

/-! ## Who is spent -/

section Openings

variable {requests : Place → Request} {opening : Traffic Place}

theorem Opens.spent (opens : Opens owner requests traffic)
    (stopped : traffic.pool.stopped = true) (place : Place) : traffic.Spent owner place := by
  rcases opens.opened place with ⟨jobs, _, _, caller⟩
  refine ⟨?_, by rw [caller]; rfl, Or.inl stopped, by rw [caller]; exact Nat.le_refl 0⟩
  rw [Multiset.filter_eq_nil]
  intro ticket member owned
  rw [opens.others ticket member] at owned
  cases owned

theorem Reaches.spent (reaches : Reaches owner gateway opening traffic)
    (opens : Opens owner requests opening) (returned : traffic.HasReturned owner place)
    (going : traffic.pool.stopped = false) : traffic.Spent owner place := by
  have none := (opens.orderly.reaches reaches).willing going place
  have told := Multiset.coe_eq_coe.mpr (reaches.received_perm opens returned none)
  have ledger := reaches.ledger_eq_jobs opens place
  refine ⟨?_, returned.submitted.hand, Or.inr returned.submitted.ahead, returned.collected.ge⟩
  have nothing := congrArg Multiset.card ledger
  have same := congrArg Multiset.card told
  simp only [Traffic.ledger, Caller.tickets, Multiset.card_add, Multiset.coe_card,
    List.length_map] at nothing same
  exact Multiset.card_eq_zero.mp (by omega)

end Openings

/-! ## What is noted -/

/-- The remark is on a call for the caller, or on a report that it reads. -/
def Remark.Concerns (owner : Nat → Option Place) (place : Place) : Remark Place → Prop
  | asked job _ _ => owner job.number = some place
  | read reader _ => reader = place

namespace Dialogue

variable {dialogue later : Dialogue Place} {remarks log : List (Remark Place)}

theorem Step.unconcerned (step : Step owner gateway dialogue remarks later)
    (spent : dialogue.traffic.Spent owner place) :
    ∀ remark ∈ remarks, ¬remark.Concerns owner place := by
  intro remark noted concerned
  cases remark with
  | asked job request answer => exact spent.unowned (step.asked noted) concerned
  | read reader report =>
      cases step with
      | move | stop | call | pause | report | block | abort => cases noted
      | ask => cases List.mem_singleton.mp noted
      | read read told =>
          cases List.mem_singleton.mp noted
          cases concerned
          rw [spent.unread read] at told
          simp at told

theorem Reaches.unconcerned (reaches : Reaches owner gateway dialogue log later)
    (orderly : dialogue.traffic.Orderly owner) (coherent : dialogue.Coherent gateway)
    (spent : dialogue.traffic.Spent owner place) :
    later.traffic.Spent owner place ∧ ∀ remark ∈ log, ¬remark.Concerns owner place := by
  induction reaches with
  | refl => exact ⟨spent, fun _ noted => by cases noted⟩
  | tail before step induction =>
      rcases induction with ⟨spent, unconcerned⟩
      refine ⟨?_, List.forall_mem_append.mpr ⟨unconcerned, step.unconcerned spent⟩⟩
      rcases step.traffic (before.coherent coherent) with same | step
      · rwa [same]
      · exact spent.step (orderly.reaches (before.traffic coherent)) step

/-- A caller that has returned reads nothing more, even where its pool was stopped and reports
are left. -/
theorem Reaches.unread {requests : Place → Request} {opening : Dialogue Place}
    {more : List (Remark Place)} (reaches : Reaches owner gateway opening log dialogue)
    (opens : Opens owner requests opening.traffic) (coherent : opening.Coherent gateway)
    (returned : dialogue.traffic.HasReturned owner place)
    (goesOn : Reaches owner gateway dialogue more later) :
    more.flatMap (Remark.reportsAt place) = [] := by
  have reached := reaches.traffic coherent
  have goingOn := goesOn.traffic (reaches.coherent coherent)
  have orderly := opens.orderly.reaches reached
  have received := (reaches.trans goesOn).received_eq opens place
  rw [List.flatMap_append, ← reaches.received_eq opens place] at received
  have counted := goingOn.count_le orderly returned.submitted
  have patient := (orderly.reaches goingOn).patient place
  rw [received, List.length_append, returned.collected] at patient
  exact List.length_eq_zero_iff.mp (by omega)

end Dialogue

end ClusterPower.FanOut
