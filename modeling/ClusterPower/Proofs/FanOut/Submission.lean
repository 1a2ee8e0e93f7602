import ClusterPower.Proofs.FanOut.Orderly

/-!
What becomes of the submissions of a caller. Each is still to be made, waits, has been
counted or has been refused, so that the count of a caller that has submitted all its
jobs is short by the refusals.
-/

namespace ClusterPower.FanOut

variable {Place : Type} [DecidableEq Place] {owner : Nat → Option Place}
  {gateway : Gateway} {traffic after : Traffic Place} {place : Place}

namespace Caller

/-- The number of submissions, made or to be made, that do not wait in the pool. -/
def submissions (caller : Caller) : Nat :=
  caller.count + caller.refused.length + caller.ahead.length + caller.hand.toList.length

variable (caller : Caller)

theorem submissions_accept : caller.accept.submissions = caller.submissions + 1 := by
  simp only [submissions, accept]
  omega

theorem submissions_refuse (job : Job) :
    (caller.refuse job).submissions = caller.submissions + 1 := by
  simp only [submissions, refuse, post_count, post_refused, post_ahead, post_hand,
    List.length_append, List.length_cons, List.length_nil]
  omega

theorem submissions_advance {caller : Caller} {job : Job} {rest : List Job}
    (next : caller.ahead = job :: rest) :
    { caller with ahead := rest }.submissions + 1 = caller.submissions := by
  simp only [submissions, next, List.length_cons]
  omega

theorem submissions_handOver {caller : Caller} {job : Job} (hand : caller.hand = some job) :
    { caller with hand := none }.submissions + 1 = caller.submissions := by
  simp [submissions, hand]

theorem submissions_foldl_post (reports : List JobReport) :
    (reports.foldl post caller).submissions = caller.submissions := by
  apply foldl_post_keeps
  intro caller report
  simp [submissions]

end Caller

namespace Traffic

def submissions (owner : Nat → Option Place) (traffic : Traffic Place) (place : Place) : Nat :=
  (traffic.callers place).submissions +
    traffic.pool.waiting.countP fun job => owner job.number = some place

theorem submissions_setCaller (actor : Place) {caller : Caller}
    (kept : caller.submissions = (traffic.callers actor).submissions) (place : Place) :
    (traffic.setCaller actor caller).submissions owner place =
      traffic.submissions owner place := by
  unfold submissions
  rw [setCaller_callers, setCaller_pool]
  split
  · next same => rw [same, kept]
  · rfl

end Traffic

theorem countP_eraseIdx {Item : Type} {holds : Item → Bool} {items : List Item} {index : Nat}
    {item : Item} (found : items[index]? = some item) :
    items.countP holds = (items.eraseIdx index).countP holds + if holds item then 1 else 0 := by
  rcases List.getElem?_eq_some_iff.mp found with ⟨within, rfl⟩
  rw [← (List.getElem_cons_eraseIdx_perm within).countP_eq holds, List.countP_cons]

theorem Move.submissions_eq (move : Move owner gateway traffic after)
    (orderly : traffic.Orderly owner) (place : Place) :
    after.submissions owner place = traffic.submissions owner place := by
  cases move with
  | refuse next free entered stopped =>
      apply Traffic.submissions_setCaller
      rw [Caller.submissions_refuse, Caller.submissions_advance next]
  | prepare next free entered going =>
      apply Traffic.submissions_setCaller
      simp only [Caller.submissions, next, free, Option.toList_some, Option.toList_none,
        List.length_cons, List.length_nil]
      omega
  | accept hand sent =>
      rcases Pool.send_accepted sent with ⟨_, _, rfl⟩
      refine Traffic.submissions_setCaller _ ?_ place
      rw [Caller.submissions_accept]
      exact Caller.submissions_handOver hand
  | @await actor job _ hand sent =>
      rcases Pool.send_waiting sent with ⟨_, _, rfl⟩
      have own := orderly.own actor _ (Traffic.ticket_mem_of_hand hand)
      have handed := Caller.submissions_handOver hand
      rw [Job.ticket_number] at own
      unfold Traffic.submissions
      rw [Traffic.setCaller_callers, Traffic.setCaller_pool, List.countP_append,
        List.countP_singleton, own]
      by_cases same : place = actor
      · simp only [same, if_true, decide_true]
        omega
      · simp [same, Ne.symm same]
  | bounce hand sent =>
      apply Traffic.submissions_setCaller
      rw [Caller.submissions_refuse, Caller.submissions_handOver hand]
  | enter entered =>
      rcases Pool.enter?_some entered with ⟨found, _, _, rfl⟩
      unfold Traffic.submissions
      rw [Traffic.tell_callers, Traffic.tell_pool, countP_eraseIdx found]
      split
      · next owned =>
        simp only [Caller.submissions_accept, owned, decide_true, if_true]
        omega
      · next unowned => simp [unowned]
  | @dismiss index job _ dismissed =>
      rcases Pool.dismiss?_some dismissed with ⟨found, _, rfl⟩
      unfold Traffic.submissions
      rw [Traffic.tell_callers, Traffic.tell_pool, countP_eraseIdx found]
      split
      · next owned =>
        simp only [Caller.submissions_refuse, owned, decide_true, if_true]
        omega
      · next unowned => simp [unowned]
  | turn turn =>
      unfold Traffic.submissions
      rw [Traffic.postAll_callers, Traffic.postAll_pool, Caller.submissions_foldl_post,
        turn.waiting_eq]

theorem Opens.submissions_eq {requests : Place → Request}
    (opens : Opens owner requests traffic) (place : Place) :
    traffic.submissions owner place = (traffic.callers place).ahead.length := by
  rcases opens.opened place with ⟨jobs, _, _, caller⟩
  have nobody : traffic.pool.waiting.countP (fun job => owner job.number = some place) = 0 := by
    rw [List.countP_eq_zero]
    intro job waiting owned
    have unowned := opens.others job.ticket
      (Pool.ticket_mem_of_mem (List.mem_append_right _ waiting))
    rw [Job.ticket_number] at unowned
    simp [unowned] at owned
  rw [Traffic.submissions, nobody, caller]
  simp [Caller.submissions, Caller.opened]

theorem Traffic.HasSubmitted.submissions_eq (submitted : traffic.HasSubmitted owner place) :
    traffic.submissions owner place =
      (traffic.callers place).count + (traffic.callers place).refused.length := by
  have nobody : traffic.pool.waiting.countP (fun job => owner job.number = some place) = 0 := by
    rw [List.countP_eq_zero]
    intro job waiting owned
    exact submitted.entered ⟨job, waiting, by simpa using owned⟩
  rw [Traffic.submissions, nobody, Caller.submissions, submitted.ahead, submitted.hand]
  rfl

theorem Step.submissions_eq (step : Step owner gateway traffic after)
    (orderly : traffic.Orderly owner) (place : Place) :
    after.submissions owner place = traffic.submissions owner place := by
  cases step with
  | move move => exact move.submissions_eq orderly place
  | read read =>
      cases read with
      | receive submitted wanted arrived =>
          apply Traffic.submissions_setCaller
          rfl
  | stop going => rfl

theorem Reaches.submissions_eq (reaches : Reaches owner gateway traffic after)
    (orderly : traffic.Orderly owner) (place : Place) :
    after.submissions owner place = traffic.submissions owner place := by
  induction reaches with
  | refl => rfl
  | tail before step induction =>
      rw [step.submissions_eq (orderly.reaches before), induction]

/-- A refusal is not taken back, so that a caller that has submitted all its jobs waits for no
more reports later on. -/
theorem Reaches.count_le (reaches : Reaches owner gateway traffic after)
    (orderly : traffic.Orderly owner) (submitted : traffic.HasSubmitted owner place) :
    (after.callers place).count ≤ (traffic.callers place).count := by
  have refused : (traffic.callers place).refused.length ≤
      (after.callers place).refused.length := by
    clear submitted
    induction reaches with
    | refl => exact Nat.le_refl _
    | tail before step induction =>
        exact induction.trans (step.progress (orderly.reaches before).sound place).refused_le
  have submissions := reaches.submissions_eq orderly place
  rw [submitted.submissions_eq] at submissions
  simp only [Traffic.submissions, Caller.submissions] at submissions
  omega

theorem Reaches.count_add_refused {requests : Place → Request}
    (reaches : Reaches owner gateway traffic after) (opens : Opens owner requests traffic)
    (submitted : after.HasSubmitted owner place) :
    (after.callers place).count + (after.callers place).refused.length =
      (traffic.callers place).ahead.length := by
  rw [← submitted.submissions_eq, reaches.submissions_eq opens.orderly, opens.submissions_eq]

end ClusterPower.FanOut
