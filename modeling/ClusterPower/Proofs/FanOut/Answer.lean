import ClusterPower.Proofs.FanOut.Delivery
import Mathlib.Data.List.Perm.Basic

/-!
Answers of a pool that is not stopped. Whatever the order of the steps, a caller then
gets one outcome for each of its calls, and each is one that the call may end with.
-/

namespace ClusterPower.FanOut

open Conversation

variable {Place : Type} [DecidableEq Place] {owner : Nat → Option Place}
  {gateway : Gateway} {requests : Place → Request} {opening traffic after : Traffic Place}
  {place : Place}

/-! ## Callers -/

theorem status_enqueue_ne {job : Job} (uncancelled : job.state.status ≠ .cancelled) :
    job.enqueue.state.status ≠ .cancelled := by
  unfold Job.enqueue JobState.enqueue
  dsimp only
  split
  · exact JobStatus.noConfusion
  · exact uncancelled

theorem Caller.Progress.uncancelled {caller after : Caller}
    (progress : caller.Progress false after)
    (uncancelled : ∀ job ∈ caller.ahead ++ caller.hand.toList, job.state.status ≠ .cancelled) :
    ∀ job ∈ after.ahead ++ after.hand.toList, job.state.status ≠ .cancelled := by
  intro job member
  cases progress with
  | refuse _ refused | bounce _ refused | dismiss _ refused => cases refused
  | @prepare first rest next =>
      rcases List.mem_append.mp member with member | member
      · exact uncancelled job (by simp [next, member])
      · have fresh := uncancelled first (by simp [next])
        rw [Option.toList_some, List.mem_singleton] at member
        rw [member]
        exact status_enqueue_ne fresh
  | accept | await =>
      have member : job ∈ caller.ahead ++ [] := member
      rw [List.append_nil] at member
      exact uncancelled job (List.mem_append_left _ member)
  | enter | receive => exact uncancelled job member
  | post reports =>
      rw [foldl_post_keeps _ Caller.ahead post_ahead,
        foldl_post_keeps _ Caller.hand post_hand] at member
      exact uncancelled job member

theorem Caller.mem_reports_post {caller : Caller} {report other : JobReport}
    (member : other ∈ (caller.post report).reports) :
    other ∈ caller.reports ∨ other = report := by
  unfold post at member
  split at member
  · simpa [reports, or_assoc] using member
  · exact Or.inl member

theorem Caller.mem_reports_foldl_post {caller : Caller} {reports : List JobReport}
    {other : JobReport} (member : other ∈ (reports.foldl post caller).reports) :
    other ∈ caller.reports ∨ other ∈ reports := by
  induction reports generalizing caller with
  | nil => exact Or.inl member
  | cons report rest induction =>
      rcases induction member with member | member
      · rcases mem_reports_post member with member | rfl
        · exact Or.inl member
        · exact Or.inr List.mem_cons_self
      · exact Or.inr (List.mem_cons_of_mem _ member)

/-! ## Traffic -/

namespace Traffic

/-- What holds while the pool has not been stopped: nobody cancels the jobs of a caller,
and all that it has been told are ends of its calls. -/
structure Faithful (owner : Nat → Option Place) (gateway : Gateway)
    (traffic : Traffic Place) : Prop where
  outside : ∀ place, ∀ job ∈ (traffic.callers place).ahead ++
    (traffic.callers place).hand.toList, job.state.status ≠ .cancelled
  inside : ∀ job ∈ traffic.pool.queue ++ traffic.pool.waiting, owner job.number ≠ none →
    job.state.status ≠ .cancelled
  answered : ∀ place, ∀ report ∈ (traffic.callers place).reports,
    (gateway.call report.job.command report.job.target).MayEnd report.outcome

theorem reports_setCaller {actor : Place} {caller : Caller}
    (kept : caller.reports = (traffic.callers actor).reports) (place : Place) :
    ((traffic.setCaller actor caller).callers place).reports =
      (traffic.callers place).reports := by
  rw [setCaller_callers]
  split
  · next same => rw [same, kept]
  · rfl

end Traffic

theorem Move.inside (move : Move owner gateway traffic after)
    (faithful : traffic.Faithful owner gateway) :
    ∀ job ∈ after.pool.queue ++ after.pool.waiting, owner job.number ≠ none →
      job.state.status ≠ .cancelled := by
  have outside {place : Place} {job : Job} (hand : (traffic.callers place).hand = some job) :
      job.state.status ≠ .cancelled := faithful.outside place job (by simp [hand])
  cases move with
  | refuse | prepare | bounce => exact faithful.inside
  | @accept actor handed _ hand sent =>
      rcases Pool.send_accepted sent with ⟨_, _, rfl⟩
      intro job member owned
      have member : job ∈ traffic.pool.queue ++ [handed] ++ traffic.pool.waiting := member
      rcases List.mem_append.mp member with member | member
      · rcases List.mem_append.mp member with member | member
        · exact faithful.inside job (List.mem_append_left _ member) owned
        · rw [List.mem_singleton.mp member]
          exact outside hand
      · exact faithful.inside job (List.mem_append_right _ member) owned
  | @await actor handed _ hand sent =>
      rcases Pool.send_waiting sent with ⟨_, _, rfl⟩
      intro job member owned
      have member : job ∈ traffic.pool.queue ++ (traffic.pool.waiting ++ [handed]) := member
      rw [← List.append_assoc] at member
      rcases List.mem_append.mp member with member | member
      · exact faithful.inside job member owned
      · rw [List.mem_singleton.mp member]
        exact outside hand
  | @enter index entering _ entered =>
      rcases Pool.enter?_some entered with ⟨found, _, _, rfl⟩
      intro job member owned
      rw [Traffic.tell_pool, List.append_assoc] at member
      rcases List.mem_append.mp member with queued | member
      · exact faithful.inside job (List.mem_append_left _ queued) owned
      · refine faithful.inside job (List.mem_append_right _ ?_) owned
        rcases List.mem_cons.mp member with rfl | others
        · exact List.mem_of_getElem? found
        · exact List.mem_of_mem_eraseIdx others
  | dismiss dismissed =>
      rcases Pool.dismiss?_some dismissed with ⟨_, _, rfl⟩
      intro job member owned
      rw [Traffic.tell_pool] at member
      rcases List.mem_append.mp member with member | member
      · exact faithful.inside job (List.mem_append_left _ member) owned
      · exact faithful.inside job (List.mem_append_right _ (List.mem_of_mem_eraseIdx member)) owned
  | turn turn =>
      intro job member owned
      rw [Traffic.postAll_pool, turn.waiting_eq] at member
      exact faithful.inside job ((turn.queue_sublist.append_right _).subset member) owned

theorem Move.answered (move : Move owner gateway traffic after)
    (orderly : traffic.Orderly owner) (going : traffic.pool.stopped = false)
    (faithful : traffic.Faithful owner gateway) (place : Place) :
    ∀ report ∈ (after.callers place).reports,
      (gateway.call report.job.command report.job.target).MayEnd report.outcome := by
  intro report member
  cases move with
  | refuse next free entered stopped =>
      rw [going] at stopped
      cases stopped
  | turn turn =>
      rw [Traffic.postAll_callers] at member
      rcases Caller.mem_reports_foldl_post member with member | member
      · exact faithful.answered place report member
      · rw [List.mem_filter, decide_eq_true_iff] at member
        rcases turn.answered orderly.sound going member.1 with ends | ⟨queued, cancelled⟩ | waits
        · exact ends
        · have owned : owner report.job.number ≠ none := by simp [member.2]
          exact absurd cancelled
            (faithful.inside report.job (List.mem_append_left _ queued) owned)
        · rw [orderly.unblocked _ _ waits] at member
          cases member.2
  | bounce hand sent =>
      have stopped := stopped_of_closed orderly.sound (Pool.send_refused sent).1
      rw [going] at stopped
      cases stopped
  | dismiss dismissed =>
      have stopped := stopped_of_closed orderly.sound (Pool.dismiss?_some dismissed).2.1
      rw [going] at stopped
      cases stopped
  | prepare | accept | await =>
      rw [Traffic.reports_setCaller (by rfl)] at member
      exact faithful.answered place report member
  | enter entered =>
      rw [Traffic.tell_callers] at member
      split at member
      · exact faithful.answered place report member
      · exact faithful.answered place report member

theorem Step.faithful (step : Step owner gateway traffic after) (orderly : traffic.Orderly owner)
    (going : after.pool.stopped = false) (faithful : traffic.Faithful owner gateway) :
    after.Faithful owner gateway := by
  have before := step.going going
  have outside : ∀ place, ∀ job ∈ (after.callers place).ahead ++
      (after.callers place).hand.toList, job.state.status ≠ .cancelled := by
    intro place
    have progress := step.progress orderly.sound place
    rw [before] at progress
    exact progress.uncancelled (faithful.outside place)
  cases step with
  | move move => exact ⟨outside, move.inside faithful, move.answered orderly before faithful⟩
  | read read =>
      cases read with
      | receive submitted wanted arrived =>
          refine ⟨outside, faithful.inside, fun place report member => ?_⟩
          rw [Traffic.reports_setCaller (by simp [Caller.reports, arrived])] at member
          exact faithful.answered place report member
  | stop stopped => cases going

omit [DecidableEq Place] in
theorem Opens.faithful (opens : Opens owner requests traffic) :
    traffic.Faithful owner gateway where
  outside place job member := by
    rcases opens.opened place with ⟨jobs, makes, _, caller⟩
    rw [caller] at member
    have made : job ∈ jobs ++ [] := member
    rw [List.append_nil] at made
    rw [makes.fresh job made]
    exact JobStatus.noConfusion
  inside job member owned :=
    absurd (opens.others job.ticket (Pool.ticket_mem_of_mem member)) owned
  answered place report member := by
    rcases opens.opened place with ⟨jobs, _, _, caller⟩
    rw [caller] at member
    cases member

theorem Reaches.faithful (reaches : Reaches owner gateway opening traffic)
    (opens : Opens owner requests opening) (going : traffic.pool.stopped = false) :
    traffic.Faithful owner gateway := by
  induction reaches with
  | refl => exact opens.faithful
  | tail before step induction =>
      exact step.faithful (opens.orderly.reaches before) going (induction (step.going going))

/-! ## Answers -/

theorem Reaches.answers (reaches : Reaches owner gateway opening traffic)
    (opens : Opens owner requests opening) (returned : traffic.HasReturned owner place)
    (going : traffic.pool.stopped = false) :
    Answers (fun call => gateway.call call.2 call.1) (requests place).calls
      ((traffic.callers place).received.map (·.outcome)) := by
  rcases opens.opened place with ⟨jobs, makes, _, caller⟩
  have none := (opens.orderly.reaches reaches).willing going place
  have perm := (reaches.received_perm opens returned none).symm
  rw [caller] at perm
  have same : List.Forall₂ (fun ticket report => report.ticket = ticket)
      ((traffic.callers place).received.map JobReport.ticket)
      (traffic.callers place).received :=
    List.forall₂_map_left_iff.mpr (List.forall₂_same.mpr fun _ _ => rfl)
  rcases List.perm_comp_forall₂ perm same with ⟨inOrder, matched, shuffled⟩
  refine ⟨inOrder.map (·.outcome), ?_, shuffled.map _⟩
  have ends : ∀ report ∈ inOrder,
      (gateway.call report.job.command report.job.target).MayEnd report.outcome := by
    intro report member
    have arrived := List.mem_append_left (traffic.callers place).held (shuffled.subset member)
    exact (reaches.faithful opens going).answered place report arrived
  have byJob : List.Forall₂ (fun job report => report.ticket = job.ticket) jobs inOrder :=
    List.forall₂_map_left_iff.mp matched
  have byReport : List.Forall₂ (fun report job => report.ticket = job.ticket) inOrder jobs :=
    List.Forall₂.flip byJob
  have both := (List.forall₂_and_left inOrder jobs).mpr ⟨ends, byReport⟩
  rw [← makes.calls, List.forall₂_map_left_iff, List.forall₂_map_right_iff]
  refine List.Forall₂.flip (both.imp fun report job agree => ?_)
  -- The call was made for the target of its outcome, which is that of the job.
  have own := gateway.regards_call report.job.command report.job.target _ agree.1
  have number : report.ticket = job.ticket := agree.2
  simp only [JobReport.ticket, Job.ticket, Ticket.mk.injEq] at number
  have called := agree.1
  rw [number.2.1, ← own, number.2.2] at called
  exact called

theorem Reaches.answers_same {command : Command} {targets : List Target}
    (reaches : Reaches owner gateway opening traffic) (opens : Opens owner requests opening)
    (asked : requests place = .same command targets)
    (returned : traffic.HasReturned owner place) (going : traffic.pool.stopped = false) :
    Answers (gateway.call command) targets
      ((traffic.callers place).received.map (·.outcome)) := by
  rcases reaches.answers opens returned going with ⟨inOrder, ends, shuffled⟩
  rw [asked, Request.calls, callsOf, List.forall₂_map_left_iff] at ends
  exact ⟨inOrder, ends, shuffled⟩

end ClusterPower.FanOut
