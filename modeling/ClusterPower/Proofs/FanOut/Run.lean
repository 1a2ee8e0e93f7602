import ClusterPower.FanOut
import ClusterPower.Proofs.Ending
import ClusterPower.Proofs.Pool.Operation
import Mathlib.Data.List.Forall2

/-!
The fan-out that is carried out. A pool at rest takes all jobs, whatever its capacity,
and its first worker carries out one after the other; so there is one outcome for each
call, in order, and each is one that its call may end with.
-/

namespace ClusterPower

namespace Pool

/-- A running pool whose first worker has nothing to do. -/
structure IsReady (pool : Pool) : Prop where
  roomy : 0 < pool.capacity
  idle : pool.workers[0]? = some .idle
  going : pool.stopped = false
  unclosed : pool.closed = false

theorem isReady_start (size capacity : Nat) : (create size capacity).start.IsReady where
  roomy := by
    have roomy : 0 < max capacity 1 := by omega
    exact roomy
  idle := by
    have sized : 0 < max size 1 := by omega
    simp [create, start, sized]
  going := rfl
  unclosed := rfl

def pending (pool : Pool) : List Job :=
  pool.queue ++ pool.waiting

variable {call : Job → Conversation Outcome} {jobs : List Job} {outcomes : List Outcome}
  {settled ending : Settled}

/-- A pool at work: what is pending, and the outcomes so far. -/
structure Serves (settled : Settled) (jobs : List Job) (outcomes : List Outcome) : Prop where
  ready : settled.pool.IsReady
  pending : settled.pool.pending = jobs
  outcomes : settled.reports.map (·.outcome) = outcomes

/-! ## Entering -/

theorem enterWithin_induction {motive : Settled → Prop}
    (step : ∀ (settled : Settled) job pool, settled.pool.enter? 0 = some (job, pool) →
      motive settled → motive { settled with pool, entered := settled.entered ++ [job] })
    (count : Nat) (start : motive settled) : motive (enterWithin settled count) := by
  induction count generalizing settled with
  | zero => exact start
  | succ count induction =>
      unfold enterWithin
      split
      · next job pool entered => exact induction (step settled job pool entered start)
      · exact start

theorem Serves.enterAll (serves : Serves settled jobs outcomes) :
    Serves (enterAll settled) jobs outcomes := by
  apply enterWithin_induction (motive := fun settled => Serves settled jobs outcomes)
  · intro settled job pool entered serves
    rcases enter?_some entered with ⟨found, _, _, rfl⟩
    exact {
      ready := { serves.ready with }
      pending := by
        rw [← List.head?_eq_getElem?, List.head?_eq_some_iff] at found
        rcases found with ⟨rest, waiting⟩
        rw [← serves.pending, Pool.pending, Pool.pending, waiting, List.append_assoc]
        rfl
      outcomes := serves.outcomes }
  · exact serves

theorem queue_enterWithin_ne_nil (count : Nat) (queued : settled.pool.queue ≠ []) :
    (enterWithin settled count).pool.queue ≠ [] := by
  apply enterWithin_induction (motive := fun settled => settled.pool.queue ≠ [])
  · intro settled job pool entered queued
    rcases enter?_some entered with ⟨_, _, _, rfl⟩
    exact List.append_ne_nil_of_right_ne_nil _ (List.cons_ne_nil job [])
  · exact queued

theorem Serves.queue_enterAll {job : Job} {rest : List Job}
    (serves : Serves settled (job :: rest) outcomes) :
    ∃ behind, (Pool.enterAll settled).pool.queue = job :: behind ∧
      behind ++ (Pool.enterAll settled).pool.waiting = rest := by
  have queued : (Pool.enterAll settled).pool.queue ≠ [] := by
    unfold Pool.enterAll
    cases queue : settled.pool.queue with
    | cons first behind =>
        apply queue_enterWithin_ne_nil
        rw [queue]
        exact List.cons_ne_nil first behind
    | nil =>
        have pending := serves.pending
        rw [Pool.pending, queue, List.nil_append] at pending
        have short : settled.pool.queue.length < settled.pool.capacity := by
          rw [queue]
          exact serves.ready.roomy
        rcases exists_enter? pending short serves.ready.unclosed with ⟨pool, entered⟩
        rw [pending, List.length_cons, enterWithin, entered]
        apply queue_enterWithin_ne_nil
        rcases enter?_some entered with ⟨_, _, _, rfl⟩
        exact List.append_ne_nil_of_right_ne_nil _ (List.cons_ne_nil job [])
  have pending := serves.enterAll.pending
  rw [Pool.pending] at pending
  cases queue : (Pool.enterAll settled).pool.queue with
  | nil => exact absurd queue queued
  | cons first behind =>
      rw [queue, List.cons_append, List.cons.injEq] at pending
      rcases pending with ⟨rfl, rest⟩
      exact ⟨behind, rfl, rest⟩

/-! ## Serving -/

theorem IsReady.idleWorker? {pool : Pool} (ready : pool.IsReady) :
    idleWorker? pool = some 0 := by
  have idle := ready.idle
  unfold Pool.idleWorker?
  cases workers : pool.workers with
  | nil => rw [workers] at idle; cases idle
  | cons first others =>
      rw [workers] at idle
      cases idle
      rfl

theorem Serves.ends {fuel : Nat} (serves : Serves settled jobs outcomes)
    (enough : jobs.length < fuel) (uncancelled : ∀ job ∈ jobs, job.state.status ≠ .cancelled)
    (unaffected : ∀ job state, call { job with state } = call job)
    (ends : (serveWithin call settled fuel).MayEnd ending) :
    ∃ more, List.Forall₂ (fun job outcome => (call job).MayEnd outcome) jobs more ∧
      ending.reports.map (·.outcome) = outcomes ++ more := by
  induction fuel generalizing settled jobs outcomes with
  | zero => exact absurd enough (Nat.not_lt_zero _)
  | succ fuel induction =>
      have entered := serves.enterAll
      unfold serveWithin at ends
      simp only [entered.ready.idleWorker?, Option.bind_some] at ends
      cases jobs with
      | nil =>
          have empty := (List.append_eq_nil_iff.mp entered.pending).1
          simp only [take?, entered.ready.idle, empty, Option.map_none] at ends
          refine ⟨[], .nil, ?_⟩
          rw [ends, entered.outcomes, List.append_nil]
      | cons job rest =>
          rcases serves.queue_enterAll with ⟨behind, queue, waiting⟩
          have callable := uncancelled job List.mem_cons_self
          simp only [take?, entered.ready.idle, queue, if_neg callable, Option.map_some,
            Conversation.mayEnd_bind, unaffected] at ends
          rcases ends with ⟨outcome, called, ends⟩
          have idle := entered.ready.idle
          rcases List.getElem?_eq_some_iff.mp idle with ⟨within, _⟩
          have set {worker : Worker} : ∀ workers : List Worker, 0 < workers.length →
              (workers.set 0 worker)[0]? = some worker :=
            fun workers within => List.getElem?_set_self within
          simp only [report?, set _ within] at ends
          have later := fun serves => @induction rest (outcomes ++ [outcome]) _ serves
            (Nat.lt_of_succ_lt_succ enough)
            (fun other member => uncancelled other (List.mem_cons_of_mem _ member)) ends
          rcases later {
            ready := { entered.ready with idle := set _ (by rwa [List.length_set]) }
            pending := waiting
            outcomes := by rw [List.map_append, entered.outcomes]; rfl } with ⟨more, all, ending⟩
          exact ⟨outcome :: more, .cons called all, by rw [ending, List.append_assoc]; rfl⟩

end Pool

namespace FanOut

/-! ## Jobs -/

theorem calls_numbered (calls : List (Target × Command)) :
    (numbered calls).map (fun job => (job.target, job.command)) = calls := by
  apply List.ext_getElem
  · simp [numbered]
  · intro index _ _
    simp [numbered]

theorem numbers_numbered (calls : List (Target × Command)) :
    (numbered calls).map (·.number) = List.range calls.length := by
  apply List.ext_getElem
  · simp [numbered]
  · intro index _ _
    simp [numbered]

theorem state_of_mem_numbered {calls : List (Target × Command)} {job : Job}
    (member : job ∈ numbered calls) : job.state = {} := by
  rcases List.mem_mapIdx.mp member with ⟨index, _, rfl⟩
  rfl

/-! ## Submitting -/

/-- A pool that has taken jobs, and refused none. While some of them wait there is no room, so
none is overtaken. -/
structure Takes (pool : Pool) (dispatched : Dispatched) (jobs : List Job) : Prop where
  pool : ∃ queue waiting, dispatched.pool = { pool with queue, waiting } ∧
    queue ++ waiting = pool.pending ++ jobs.map Job.enqueue ∧
    (waiting = [] ∨ pool.capacity ≤ queue.length + waiting.length)
  count : dispatched.count = jobs.length
  reports : dispatched.reports = []

theorem Takes.submitJob {pool : Pool} {dispatched : Dispatched} {jobs : List Job}
    (takes : Takes pool dispatched jobs) (ready : pool.IsReady) (job : Job) :
    Takes pool (FanOut.submitJob dispatched job) (jobs ++ [job]) := by
  rcases takes.pool with ⟨queue, waiting, same, pending, inTurn⟩
  unfold FanOut.submitJob
  cases submitted : dispatched.pool.submit job with
  | mk submission after =>
      rw [Pool.submit_eq_send, if_neg (by simp [same, ready.going])] at submitted
      cases submission with
      | refused report =>
          have closed := (Pool.send_refused submitted).1
          rw [same, ready.unclosed] at closed
          cases closed
      | accepted =>
          rcases Pool.send_accepted submitted with ⟨unclosed, free, rfl⟩
          rw [Pool.hasRoom_iff unclosed, same] at free
          have empty : waiting = [] := inTurn.resolve_right (Nat.not_le_of_lt free)
          refine ⟨⟨queue ++ [job.enqueue], waiting, by rw [same], ?_, Or.inl empty⟩, ?_,
            takes.reports⟩
          · rw [List.map_append, ← List.append_assoc, ← pending, empty]
            simp
          · rw [takes.count, List.length_append]
            rfl
      | waiting =>
          rcases Pool.send_waiting submitted with ⟨unclosed, noRoom, rfl⟩
          rw [← Bool.not_eq_true, Pool.hasRoom_iff unclosed, same, Nat.not_lt] at noRoom
          refine ⟨⟨queue, waiting ++ [job.enqueue], by rw [same], ?_, Or.inr ?_⟩, ?_,
            takes.reports⟩
          · rw [List.map_append, ← List.append_assoc, ← List.append_assoc, pending]
            rfl
          · rw [List.length_append, ← Nat.add_assoc]
            exact Nat.le_add_right_of_le noRoom
          · rw [takes.count, List.length_append]
            rfl

theorem takes_submitAll {pool : Pool} (ready : pool.IsReady) (empty : pool.pending = [])
    (jobs : List Job) : Takes pool (submitAll pool jobs) jobs := by
  have grow : ∀ (rest done : List Job) (dispatched : Dispatched), Takes pool dispatched done →
      Takes pool (rest.foldl submitJob dispatched) (done ++ rest) := by
    intro rest
    induction rest with
    | nil =>
        intro done dispatched takes
        rwa [List.append_nil]
    | cons job rest induction =>
        intro done dispatched takes
        have later := induction (done ++ [job]) _ (takes.submitJob ready job)
        rwa [List.append_assoc] at later
  refine grow jobs [] { pool } ⟨⟨pool.queue, pool.waiting, rfl, ?_, ?_⟩, rfl, rfl⟩
  · simp [Pool.pending]
  · exact Or.inl (List.append_eq_nil_iff.mp empty).2

theorem submitAll_of_stopped {pool : Pool} (stopped : pool.stopped = true) (jobs : List Job) :
    (submitAll pool jobs).pool = pool ∧ (submitAll pool jobs).count = 0 := by
  have kept : ∀ (jobs : List Job) (dispatched : Dispatched),
      dispatched.pool = pool ∧ dispatched.count = 0 →
        (jobs.foldl submitJob dispatched).pool = pool ∧
          (jobs.foldl submitJob dispatched).count = 0 := by
    intro jobs
    induction jobs with
    | nil => exact fun _ start => start
    | cons job rest induction =>
        intro dispatched start
        apply induction
        unfold submitJob
        rw [Pool.submit_eq_send, start.1, if_pos stopped]
        exact ⟨rfl, start.2⟩
  exact kept jobs { pool } ⟨rfl, rfl⟩

/-! ## Running -/

theorem run_of_stopped {pool : Pool} (stopped : pool.stopped = true) (gateway : Gateway)
    (calls : List (Target × Command)) : run gateway pool calls = .done [] := by
  rcases submitAll_of_stopped stopped (numbered calls) with ⟨same, nothing⟩
  unfold run dispatch Pool.settle
  dsimp only
  rw [same, if_pos stopped]
  simp only [Conversation.bind, collect, nothing, List.take_zero, List.map_nil]

theorem run_ends {gateway : Gateway} {pool : Pool} {calls : List (Target × Command)}
    {outcomes : List Outcome} (ready : pool.IsReady) (empty : pool.pending = [])
    (ends : (run gateway pool calls).MayEnd outcomes) :
    List.Forall₂ (fun call outcome => (gateway.call call.2 call.1).MayEnd outcome) calls
      outcomes := by
  have takes := takes_submitAll ready empty (numbered calls)
  rcases takes.pool with ⟨queue, waiting, same, pending, _⟩
  have going : (submitAll pool (numbered calls)).pool.stopped = false := by
    rw [same]
    exact ready.going
  simp only [run, dispatch, Conversation.mayEnd_bind, Conversation.mayEnd_done, Pool.settle,
    going, Bool.false_eq_true, if_false, Pool.serve] at ends
  rcases ends with ⟨_, ⟨settled, served, rfl⟩, rfl⟩
  have pending : (submitAll pool (numbered calls)).pool.pending =
      (numbered calls).map Job.enqueue := by
    rw [same, ← List.nil_append (List.map _ _), ← empty, ← pending]
    rfl
  have enough := congrArg List.length pending
  rw [Pool.pending, List.length_append] at enough
  have uncancelled : ∀ job ∈ (numbered calls).map Job.enqueue,
      job.state.status ≠ .cancelled := by
    intro job member
    rcases List.mem_map.mp member with ⟨fresh, listed, rfl⟩
    rw [Job.enqueue, state_of_mem_numbered listed]
    exact JobStatus.noConfusion
  have serves : Pool.Serves { pool := (submitAll pool (numbered calls)).pool }
      ((numbered calls).map Job.enqueue) [] := ⟨by rw [same]; exact { ready with }, pending, rfl⟩
  rcases serves.ends (by omega) uncancelled (fun _ _ => rfl) served with ⟨more, all, reported⟩
  have inOrder := List.forall₂_map_left_iff.mp all
  have whole := inOrder.length_eq
  rw [collect, takes.count, takes.reports, List.nil_append, List.map_take, reported, whole,
    List.nil_append, List.take_length, ← calls_numbered calls]
  exact List.forall₂_map_left_iff.mpr inOrder

end FanOut

end ClusterPower
