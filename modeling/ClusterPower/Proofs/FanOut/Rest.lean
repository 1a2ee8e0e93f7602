import ClusterPower.Proofs.FanOut.Submission
import ClusterPower.Proofs.Pool.Rest
import Mathlib.Algebra.BigOperators.Group.Finset.Basic

/-!
Traffic comes to rest. A step uses up some of the work that is left, so that no run goes
on for ever; where a run has ended, every job has been submitted, carried out or given
up, and every caller has returned.
-/

namespace ClusterPower.FanOut

variable {Place : Type} [DecidableEq Place] {owner : Nat → Option Place}
  {gateway : Gateway} {traffic after : Traffic Place} {place : Place}

/-! ## Work -/

namespace Caller

/-- A bound on the steps that the jobs of a caller still cause, those in the pool
excepted. -/
def work (caller : Caller) : Nat :=
  7 * caller.ahead.length + 6 * caller.hand.toList.length + caller.held.length

theorem work_advance {caller : Caller} {job : Job} {rest : List Job}
    (next : caller.ahead = job :: rest) :
    { caller with ahead := rest }.work + 7 = caller.work := by
  simp only [work, next, List.length_cons]
  omega

theorem work_handOver {caller : Caller} {job : Job} (hand : caller.hand = some job) :
    { caller with hand := none }.work + 6 = caller.work := by
  simp only [work, hand, Option.toList_some, Option.toList_none, List.length_cons,
    List.length_nil]
  omega

theorem work_post_le (caller : Caller) (report : JobReport) :
    (caller.post report).work ≤ caller.work + 1 := by
  unfold post
  split
  · simp only [work, List.length_append, List.length_singleton]
    omega
  · exact Nat.le_succ _

theorem work_refuse_le (caller : Caller) (job : Job) :
    (caller.refuse job).work ≤ caller.work + 1 :=
  work_post_le _ _

theorem work_refuse_advance {caller : Caller} {job : Job} {rest : List Job}
    (next : caller.ahead = job :: rest) :
    ({ caller with ahead := rest }.refuse job).work < caller.work := by
  have refused := { caller with ahead := rest }.work_refuse_le job
  have advanced := work_advance next
  omega

theorem work_prepare {caller : Caller} {job : Job} {rest : List Job}
    (next : caller.ahead = job :: rest) (free : caller.hand = none) :
    { caller with ahead := rest, hand := some job.enqueue }.work < caller.work := by
  simp only [work, next, free, Option.toList_some, Option.toList_none, List.length_cons,
    List.length_nil]
  omega

theorem work_bounce {caller : Caller} {job : Job} (hand : caller.hand = some job) :
    ({ caller with hand := none }.refuse job).work < caller.work := by
  have refused := { caller with hand := none }.work_refuse_le job
  have handed := work_handOver hand
  omega

theorem work_receive {caller : Caller} {report : JobReport} {rest : List JobReport}
    (arrived : caller.held = report :: rest) :
    { caller with held := rest, received := caller.received ++ [report] }.work <
      caller.work := by
  simp only [work, arrived, List.length_cons]
  omega

end Caller

namespace Traffic

variable [Fintype Place]

def work (traffic : Traffic Place) : Nat :=
  traffic.pool.work + ∑ place, (traffic.callers place).work

theorem work_setCaller (traffic : Traffic Place) (pool : Pool) (place : Place)
    (caller : Caller) :
    ({ traffic with pool }.setCaller place caller).work +
        (traffic.pool.work + (traffic.callers place).work) =
      traffic.work + (pool.work + caller.work) := by
  have others : ∑ other ∈ Finset.univ.erase place,
      (({ traffic with pool }.setCaller place caller).callers other).work =
      ∑ other ∈ Finset.univ.erase place, (traffic.callers other).work := by
    apply Finset.sum_congr rfl
    intro other member
    rw [setCaller_callers, if_neg (Finset.ne_of_mem_erase member)]
  have here : ({ traffic with pool }.setCaller place caller).callers place = caller :=
    (setCaller_callers _ _ _ _).trans (if_pos rfl)
  have shared : ({ traffic with pool }.setCaller place caller).pool = pool := rfl
  unfold work
  rw [← Finset.add_sum_erase _ _ (Finset.mem_univ place),
    ← Finset.add_sum_erase _ _ (Finset.mem_univ place), others, here, shared]
  omega

theorem work_setCaller_lt {pool : Pool} {caller : Caller}
    (less : pool.work + caller.work < traffic.pool.work + (traffic.callers place).work) :
    ({ traffic with pool }.setCaller place caller).work < traffic.work := by
  have changed := traffic.work_setCaller pool place caller
  omega

theorem work_tell_le (owner : Nat → Option Place) (traffic : Traffic Place) (pool : Pool)
    (job : Job) {change : Caller → Caller} {amount : Nat}
    (bounded : ∀ caller : Caller, (change caller).work ≤ caller.work + amount) :
    ({ traffic with pool }.tell owner job change).work + traffic.pool.work ≤
      traffic.work + pool.work + amount := by
  unfold tell
  split
  · next place owned =>
    have changed := traffic.work_setCaller pool place (change (traffic.callers place))
    have bound := bounded (traffic.callers place)
    show ({ traffic with pool }.setCaller place (change (traffic.callers place))).work + _ ≤ _
    omega
  · simp only [work]
    omega

theorem work_postAll_le (owner : Nat → Option Place) (traffic : Traffic Place)
    (reports : List JobReport) :
    (traffic.postAll owner reports).work ≤ traffic.work + reports.length := by
  induction reports generalizing traffic with
  | nil => exact Nat.le_refl _
  | cons report rest induction =>
      have first : (traffic.post owner report).work + traffic.pool.work ≤
          traffic.work + traffic.pool.work + 1 :=
        traffic.work_tell_le owner traffic.pool report.job
          fun caller => caller.work_post_le report
      have later : ((traffic.post owner report).postAll owner rest).work ≤
          (traffic.post owner report).work + rest.length := induction _
      rw [List.length_cons]
      exact later.trans (by omega)

end Traffic

theorem Move.work_lt [Fintype Place] (move : Move owner gateway traffic after)
    (sound : traffic.pool.Sound) : after.work < traffic.work := by
  cases move with
  | refuse next free entered stopped =>
      have less := Caller.work_refuse_advance next
      exact Traffic.work_setCaller_lt (Nat.add_lt_add_left less _)
  | prepare next free entered going =>
      have less := Caller.work_prepare next free
      exact Traffic.work_setCaller_lt (Nat.add_lt_add_left less _)
  | accept hand sent =>
      rcases Pool.send_accepted sent with ⟨_, _, rfl⟩
      have handed := Caller.work_handOver hand
      apply Traffic.work_setCaller_lt
      rw [Pool.work_enqueue, ← handed]
      simp only [Caller.accept, Caller.work]
      omega
  | await hand sent =>
      rcases Pool.send_waiting sent with ⟨_, _, rfl⟩
      have handed := Caller.work_handOver hand
      apply Traffic.work_setCaller_lt
      rw [Pool.work_await, ← handed]
      simp only [Caller.work]
      omega
  | bounce hand sent =>
      have less := Caller.work_bounce hand
      exact Traffic.work_setCaller_lt (Nat.add_lt_add_left less _)
  | @enter index job pool entered =>
      rcases Pool.enter?_some entered with ⟨found, _, _, equal⟩
      have entering := Pool.work_enter found
      have kept : ∀ caller : Caller, caller.accept.work ≤ caller.work + 0 :=
        fun caller => Nat.le_refl caller.work
      have told := traffic.work_tell_le owner pool job kept
      rw [← equal] at entering
      omega
  | @dismiss index job pool dismissed =>
      rcases Pool.dismiss?_some dismissed with ⟨found, _, equal⟩
      have leaving := Pool.work_dismiss
        (if index < traffic.pool.kept then traffic.pool.kept - 1 else traffic.pool.kept) found
      have told := traffic.work_tell_le owner pool job fun caller => caller.work_refuse_le job
      rw [← equal] at leaving
      omega
  | @turn reports pool turn =>
      have done := turn.work_lt sound
      have posted := { traffic with pool }.work_postAll_le owner reports
      simp only [Traffic.work] at posted ⊢
      omega

theorem Step.work_lt [Fintype Place] (step : Step owner gateway traffic after)
    (sound : traffic.pool.Sound) : after.work < traffic.work := by
  cases step with
  | move move => exact move.work_lt sound
  | read read =>
      cases read with
      | receive submitted wanted arrived =>
          have less := Caller.work_receive arrived
          exact Traffic.work_setCaller_lt (Nat.add_lt_add_left less _)
  | stop going =>
      have stopped := Pool.work_stop going
      simp only [Traffic.work]
      omega

/-- No run goes on for ever. -/
def Ends (owner : Nat → Option Place) (gateway : Gateway) : Traffic Place → Prop :=
  Acc fun after before => Step owner gateway before after

theorem Traffic.Orderly.ends [Fintype Place] (orderly : traffic.Orderly owner) :
    Ends owner gateway traffic := by
  induction work : traffic.work using Nat.strong_induction_on generalizing traffic with
  | h amount induction =>
      refine Acc.intro _ fun after step => ?_
      have less := step.work_lt orderly.sound
      exact induction after.work (work ▸ less) (orderly.step step) rfl

theorem Ends.exists_rests (ends : Ends owner gateway traffic) :
    ∃ after, Reaches owner gateway traffic after ∧ Rests owner gateway after := by
  induction ends with
  | intro traffic _ induction =>
      by_cases rests : Rests owner gateway traffic
      · exact ⟨traffic, .refl, rests⟩
      · have goes : ∃ after, Step owner gateway traffic after := by
          by_contra none
          exact rests ⟨fun after move => none ⟨after, .move move⟩,
            fun after read => none ⟨after, .read read⟩⟩
        rcases goes with ⟨after, step⟩
        rcases induction after step with ⟨last, reaches, rests⟩
        exact ⟨last, .head step reaches, rests⟩

/-! ## At rest -/

namespace Idles

variable (idles : Idles owner gateway traffic) (orderly : traffic.Orderly owner)

include idles

theorem pool :
    traffic.pool.Rests (fun job => gateway.call job.command job.target)
      (traffic.HasRoom owner) :=
  fun _ _ turn => idles _ (.turn turn)

theorem hand (place : Place) : (traffic.callers place).hand = none := by
  cases hand : (traffic.callers place).hand with
  | none => rfl
  | some job =>
      cases sent : traffic.pool.send job with
      | mk submission pool =>
          cases submission with
          | accepted => exact absurd (.accept hand sent) (idles _)
          | waiting => exact absurd (.await hand sent) (idles _)
          | refused report => exact absurd (.bounce hand sent) (idles _)

include orderly

theorem waiting : traffic.pool.waiting = [] := by
  have queue := idles.pool.queue_eq_nil orderly.sound orderly.free
  cases waiting : traffic.pool.waiting with
  | nil => rfl
  | cons job rest =>
      cases closed : traffic.pool.closed with
      | true =>
          rcases Pool.exists_dismiss? waiting closed with ⟨pool, dismissed⟩
          exact absurd (.dismiss dismissed) (idles _)
      | false =>
          have short : traffic.pool.queue.length < traffic.pool.capacity := by
            rw [queue]
            exact orderly.sound.roomy
          rcases Pool.exists_enter? waiting short closed with ⟨pool, entered⟩
          exact absurd (.enter entered) (idles _)

theorem not_awaits (place : Place) : ¬traffic.Awaits owner place := by
  rintro ⟨job, member, _⟩
  rw [idles.waiting orderly] at member
  cases member

theorem ahead (place : Place) : (traffic.callers place).ahead = [] := by
  cases next : (traffic.callers place).ahead with
  | nil => rfl
  | cons job rest =>
      have entered := idles.not_awaits orderly place
      cases stopped : traffic.pool.stopped with
      | true => exact absurd (.refuse next (idles.hand place) entered stopped) (idles _)
      | false => exact absurd (.prepare next (idles.hand place) entered stopped) (idles _)

theorem submitted (place : Place) : traffic.HasSubmitted owner place where
  ahead := idles.ahead orderly place
  hand := idles.hand place
  entered := idles.not_awaits orderly place

theorem ledger_eq (place : Place) :
    traffic.ledger owner place =
      ↑((traffic.callers place).reports.map JobReport.ticket) := by
  have submitted := idles.submitted orderly place
  have pool := idles.pool.tickets_eq orderly.sound orderly.free
  rw [idles.waiting orderly] at pool
  rw [Traffic.ledger, pool, Caller.tickets, submitted.ahead, submitted.hand,
    orderly.nothingLost place, Caller.reports, List.map_append, ← Multiset.coe_add]
  simp

end Idles

theorem Rests.held_or_collected (rests : Rests owner gateway traffic)
    (orderly : traffic.Orderly owner) (place : Place) :
    (traffic.callers place).held = [] ∨
      (traffic.callers place).received.length = (traffic.callers place).count := by
  have patient := orderly.patient place
  cases arrived : (traffic.callers place).held with
  | nil => exact Or.inl rfl
  | cons report rest =>
      right
      by_contra short
      have wanted := Nat.lt_of_le_of_ne patient short
      exact rests.read _ (.receive (rests.idles.submitted orderly place) wanted arrived)

theorem Rests.returned {requests : Place → Request} {opening : Traffic Place}
    (rests : Rests owner gateway traffic) (opens : Opens owner requests opening)
    (reaches : Reaches owner gateway opening traffic) (place : Place) :
    traffic.HasReturned owner place := by
  have orderly := opens.orderly.reaches reaches
  have submitted := rests.idles.submitted orderly place
  refine ⟨submitted, ?_⟩
  rcases rests.held_or_collected orderly place with nothing | collected
  · have patient := orderly.patient place
    have counted := reaches.count_add_refused opens submitted
    have ledger := congrArg Multiset.card (rests.idles.ledger_eq orderly place)
    rw [reaches.ledger_eq opens.orderly, opens.ledger_eq, Multiset.coe_card,
      Multiset.coe_card, List.length_map, List.length_map, Caller.reports, nothing,
      List.append_nil] at ledger
    omega
  · exact collected

end ClusterPower.FanOut
