import ClusterPower.Proofs.Pool.Acceptance

/-!
The count of running jobs. A worker raises it when a run begins and lowers it when the run
has ended, which it does not come to when it is aborted in between.
-/

namespace ClusterPower

def Worker.spare : Worker → Nat
  | .idle => 1
  | .calling _ | .reporting _ _ | .gone => 0

namespace Pool

/-- The count of running jobs is right but for some runs that were cut off. -/
structure Counted (pool : Pool) (lost : Nat) : Prop where
  running : pool.running = pool.inside.length + lost
  spare : pool.running + (pool.workers.map Worker.spare).sum ≤ pool.workers.length

variable {pool after : Pool} {notes log : List Note} {lost : Nat}

/-! ## One step -/

theorem cutOffs_cutOff (jobs : List Job) : cutOffs (jobs.map .cutOff) = jobs := by
  rw [cutOffs, List.filterMap_map]
  exact List.filterMap_some

theorem Counted.setWorker {index : Nat} {old : Worker} (counted : pool.Counted lost)
    (found : pool.workers[index]? = some old) (new : Worker) (running more : Nat)
    (moved : running + old.inside?.toList.length =
      pool.running + new.inside?.toList.length + more)
    (spare : running + new.spare ≤ pool.running + old.spare) :
    { pool with workers := pool.workers.set index new, running }.Counted (lost + more) where
  running := by
    have replaced := congrArg Multiset.card (pool.inside_setWorker new running found)
    have before := counted.running
    simp only [Multiset.card_add, Multiset.coe_card] at replaced
    dsimp only
    omega
  spare := by
    have spared := sum_map_set Worker.spare new found
    have before := counted.spare
    dsimp only
    rw [List.length_set]
    omega

theorem Counted.running_pos {index : Nat} {worker : Worker} {job : Job}
    (counted : pool.Counted lost) (found : pool.workers[index]? = some worker)
    (busy : worker.inside? = some job) : 0 < pool.running := by
  have inside : job ∈ pool.inside :=
    List.mem_filterMap.mpr ⟨worker, List.mem_of_getElem? found, busy⟩
  have counted := counted.running
  have some := List.length_pos_of_mem inside
  omega

theorem Counted.start (counted : pool.Counted lost) (sound : pool.Sound) :
    pool.start.Counted lost := by
  unfold Pool.start
  split
  · exact counted
  · next fresh =>
    have nobody := sound.unstaffed (by simpa using fresh)
    have running := counted.running
    have spare := counted.spare
    rw [inside, nobody] at running
    rw [nobody] at spare
    simp only [List.map_nil, List.sum_nil, List.length_nil, List.filterMap_nil] at running spare
    have sparing : ((List.replicate pool.size Worker.idle).map Worker.spare).sum = pool.size := by
      simp [Worker.spare]
    refine ⟨?_, ?_⟩
    · rw [inside, filterMap_inside_idlers, List.length_nil]
      exact running
    · rw [sparing, List.length_replicate]
      dsimp only
      omega

theorem Work.counted (work : Work pool notes after) (sound : pool.Sound)
    (counted : pool.Counted lost) : after.Counted (lost + (cutOffs notes).length) := by
  cases work with
  | enter entered =>
      rcases enter?_some entered with ⟨_, _, _, _, rfl⟩
      exact ⟨counted.running, counted.spare⟩
  | dismiss dismissed =>
      rcases dismiss?_some dismissed with ⟨_, _, rfl⟩
      rw [cutOffs_dismiss]
      exact ⟨counted.running, counted.spare⟩
  | start => exact counted.start sound
  | stop => exact ⟨counted.running, counted.spare⟩
  | skip first taken =>
      rcases take?_skipped taken with ⟨_, _, _, _, _, rfl⟩
      rw [cutOffs_leave]
      exact ⟨counted.running, counted.spare⟩
  | run first taken =>
      rcases take?_called taken with ⟨_, rest, idle, _, _, _, rfl⟩
      have counted : { pool with queue := rest }.Counted lost :=
        ⟨counted.running, counted.spare⟩
      rw [cutOffs_leave]
      exact counted.setWorker idle _ _ 0 rfl (Nat.le_refl _)
  | report calling reported =>
      rcases report?_some calling reported with ⟨_, rfl⟩
      have positive := counted.running_pos calling rfl
      refine counted.setWorker calling _ _ 0 ?_ ?_
      · exact Nat.sub_add_cancel positive
      · exact (Nat.sub_add_cancel positive).le
  | block calling blocked =>
      rcases block?_some calling blocked with rfl
      exact counted.setWorker calling _ _ 0 rfl (Nat.le_refl _)
  | unblock reporting reported =>
      rcases unblock?_some reporting reported with ⟨_, rfl⟩
      have positive := counted.running_pos reporting rfl
      refine counted.setWorker reporting _ _ 0 ?_ ?_
      · exact Nat.sub_add_cancel positive
      · exact (Nat.sub_add_cancel positive).le
  | abort found aborted =>
      rcases abort?_some aborted with ⟨worker, here, _, _, _, rfl⟩
      rw [found] at here
      cases here
      -- The count stays, so that the run, if there was one, is among those lost.
      rw [cutOffs_cutOff]
      exact counted.setWorker found _ _ _ rfl (Nat.le_add_right _ _)
  | close closed =>
      rcases close?_some closed with ⟨_, _, rfl⟩
      exact ⟨counted.running, counted.spare⟩
  | discard first discarded =>
      rcases discard?_some discarded with ⟨_, _, _, _, _, rfl⟩
      exact ⟨counted.running, counted.spare⟩

/-! ## All runs -/

namespace Use

variable {use next : Use} {size capacity : Nat}

theorem Step.counted (step : Step use notes next) (sound : use.pool.Sound)
    (counted : use.pool.Counted lost) :
    next.pool.Counted (lost + (cutOffs notes).length) := by
  cases step with
  | turnAway | letIn => exact counted
  | handOver held given =>
      cases Hand.given_of_give given with
      | accepted | waiting | full | refused => exact ⟨counted.running, counted.spare⟩
  | work work => exact work.counted sound counted

theorem Reaches.counted (reaches : Reaches (opening size capacity) log use) :
    use.pool.Counted (cutOffs log).length := by
  induction reaches with
  | refl => exact ⟨rfl, Nat.le_refl 0⟩
  | tail before step induction =>
      rw [cutOffs_append, List.length_append]
      exact step.counted before.sound induction

theorem Reaches.trans {start later : Use} {more : List Note} (reaches : Reaches start log use)
    (goesOn : Reaches use more later) : Reaches start (log ++ more) later := by
  induction goesOn with
  | refl => rwa [List.append_nil]
  | tail _ step induction =>
      rw [← List.append_assoc]
      exact induction.tail step

theorem Step.stopped_of_cutOff (step : Step use notes next) (cut : cutOffs notes ≠ []) :
    use.pool.stopped = true := by
  cases step with
  | turnAway | letIn => exact absurd rfl cut
  | handOver held given =>
      cases Hand.given_of_give given with
      | accepted | waiting | full | refused => exact absurd rfl cut
  | work work =>
      cases work with
      | abort found aborted =>
          rcases abort?_some aborted with ⟨_, _, _, stopped, _, _⟩
          exact stopped
      | dismiss => exact absurd (cutOffs_dismiss _ _) cut
      | skip | run => exact absurd (cutOffs_leave _ _ _) cut
      | enter | start | stop | report | block | unblock | close | discard => exact absurd rfl cut

theorem Reaches.cutOffs_eq_nil (reaches : Reaches (opening size capacity) log use)
    (going : use.pool.stopped = false) : cutOffs log = [] := by
  induction reaches with
  | refl => rfl
  | @tail log use notes after before step induction =>
      have earlier : use.pool.stopped = false := by
        by_contra stopped
        have still := step.stopped_iff.mpr (Or.inl (eq_true_of_ne_false stopped))
        rw [going] at still
        cases still
      have nothing : cutOffs notes = [] := by
        by_contra cut
        have stopped := step.stopped_of_cutOff cut
        rw [earlier] at stopped
        cases stopped
      rw [cutOffs_append, induction earlier, nothing, List.append_nil]

/-- The count of running jobs never exceeds the number of workers. It is the number of jobs
that workers are inside the runs of, and in addition that of the runs cut off: none as long
as the pool has not been stopped, and for good what there were. -/
theorem running_counts_cut_off_runs (size capacity : Nat)
    (reaches : Reaches (opening size capacity) log use) :
    use.pool.running ≤ use.pool.size ∧
    use.pool.running = use.pool.inside.length + (cutOffs log).length ∧
    (use.pool.stopped = false → use.pool.running = use.pool.inside.length) ∧
    ((∀ worker ∈ use.pool.workers, Worker.isGone worker = true) →
      use.pool.running = (cutOffs log).length) ∧
    (∀ more later, Reaches use more later → (cutOffs log).length ≤ later.pool.running) := by
  have counted := reaches.counted
  refine ⟨?_, counted.running, ?_, ?_, ?_⟩
  · have spare := counted.spare
    have sound := reaches.sound
    cases started : use.pool.started with
    | true =>
        have staffed := sound.staffed started
        omega
    | false =>
        have unstaffed := sound.unstaffed started
        rw [unstaffed, List.length_nil] at spare
        omega
  · intro going
    have running := counted.running
    rwa [reaches.cutOffs_eq_nil going] at running
  · intro gone
    have nobody : use.pool.inside = [] := by
      refine List.filterMap_eq_nil_iff.mpr fun worker member => ?_
      cases worker with
      | gone => rfl
      | idle | calling | reporting => cases gone _ member
    have running := counted.running
    rwa [nobody, List.length_nil, Nat.zero_add] at running
  · intro more later goesOn
    have running := (reaches.trans goesOn).counted.running
    rw [cutOffs_append, List.length_append] at running
    omega

theorem one_run_is_counted :
    ∃ log use, Reaches (opening 1 1) log use ∧ use.pool.running ≤ 1 ∧
      use.pool.running = use.pool.inside.length ∧
      use.pool.inside.map (·.number) = [0] := by
  let job : Job := ⟨0, .readState, { xname := "x0" }, {}⟩
  have reaches : Reaches (opening 1 1) [] _ := .refl
  replace reaches := reaches.tail (@Step.letIn _ ⟨job, false⟩ rfl rfl)
  replace reaches := reaches.tail (@Step.handOver _ [] ⟨job, false⟩ [] _ _ rfl rfl)
  replace reaches := reaches.tail (.work .start)
  replace reaches := reaches.tail (.work (@Work.run _ 0 _ _ _ rfl rfl))
  rcases running_counts_cut_off_runs 1 1 reaches with ⟨bounded, _, uncut, _, _⟩
  exact ⟨_, _, reaches, bounded, uncut rfl, rfl⟩

theorem cut_off_run_is_counted_on :
    ∃ log use, Reaches (opening 1 1) log use ∧
      (∀ worker ∈ use.pool.workers, Worker.isGone worker = true) ∧
      use.pool.queue = [] ∧ use.pool.closed = true ∧
      use.pool.inside.length = 0 ∧ use.pool.running = 1 := by
  let job : Job := ⟨0, .readState, { xname := "x0" }, {}⟩
  have reaches : Reaches (opening 1 1) [] _ := .refl
  replace reaches := reaches.tail (@Step.letIn _ ⟨job, false⟩ rfl rfl)
  replace reaches := reaches.tail (@Step.handOver _ [] ⟨job, false⟩ [] _ _ rfl rfl)
  replace reaches := reaches.tail (.work .start)
  replace reaches := reaches.tail (.work (@Work.run _ 0 _ _ _ rfl rfl))
  replace reaches := reaches.tail (.work .stop)
  replace reaches := reaches.tail (.work (@Work.abort _ 0 _ _ _ rfl rfl))
  replace reaches := reaches.tail (.work (.close rfl))
  exact ⟨_, _, reaches, by decide, rfl, rfl, rfl, rfl⟩

end Use

end Pool

end ClusterPower
