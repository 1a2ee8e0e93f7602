import ClusterPower.Pool.Basic

/-!
Offers of jobs. A job that is offered is queued behind the others, or comes back for want of room,
or is refused, and the queue changes in the first case alone. A job that comes back has the status
it had, but the reason of an earlier failure is lost.
-/

namespace ClusterPower.Pool

variable {pool : Pool} {job : Job}

/-- The pool has neither been stopped nor closed its queue. -/
def TakesOffers (pool : Pool) : Prop :=
  pool.stopped = false ∧ pool.closed = false

/-- All that an offer can do. -/
inductive Offered (pool : Pool) (job : Job) : Offer → Pool → Prop
  | accepted (takes : pool.TakesOffers) (free : pool.hasRoom = true) :
      Offered pool job .accepted { pool with queue := pool.queue ++ [job.enqueue] }
  | full (takes : pool.TakesOffers) (noRoom : pool.hasRoom = false) :
      Offered pool job (.full { job with state := ⟨job.state.status, none⟩ }) pool
  | refused (report : JobReport) (ended : ¬pool.TakesOffers) :
      Offered pool job (.refused report) pool

theorem offered_offer (pool : Pool) (job : Job) :
    Offered pool job (pool.offer job).1 (pool.offer job).2 := by
  unfold offer
  split
  · next stopped => exact .refused _ fun takes => by simp [takes.1] at stopped
  · next going =>
    split
    · next closed => exact .refused _ fun takes => by simp [takes.2] at closed
    · next notClosed =>
      have takes : pool.TakesOffers := ⟨by simpa using going, by simpa using notClosed⟩
      split
      · next free => exact .accepted takes free
      · next noRoom => exact .full takes (by simpa using noRoom)

theorem comesBack_eq_iff :
    ({ job with state := ⟨job.state.status, none⟩ } : Job) = job ↔ job.state.error = none := by
  rcases job with ⟨number, command, target, status, error⟩
  cases error <;> simp

/-- A pool that takes offers accepts a job if it has room, and then queues it, a fresh job as a
queued one and any other as it is. Without room the job comes back, and the same job exactly if
there was no reason of a failure with it. In all cases but the first the pool is left as it was. -/
theorem offered_job_comes_back_whole_iff_no_error (pool : Pool) (job : Job) :
    match pool.offer job with
    | (.accepted, after) => pool.TakesOffers ∧ pool.hasRoom = true ∧
        after = { pool with queue := pool.queue ++ [job.enqueue] } ∧
        job.enqueue = { job with
          state := if job.state.status = .fresh then ⟨.queued, none⟩ else job.state }
    | (.full back, after) => pool.TakesOffers ∧ pool.hasRoom = false ∧ after = pool ∧
        back.state.status = job.state.status ∧ (back = job ↔ job.state.error = none)
    | (.refused _, after) => ¬pool.TakesOffers ∧ after = pool := by
  have offered := offered_offer pool job
  generalize pool.offer job = answer at offered
  rcases answer with ⟨offer, after⟩
  cases offered with
  | accepted takes free => exact ⟨takes, free, rfl, rfl⟩
  | full takes noRoom => exact ⟨takes, noRoom, rfl, rfl, comesBack_eq_iff⟩
  | refused report ended => exact ⟨ended, rfl⟩

theorem full_pool_loses_error :
    let job : Job := ⟨1, .readState, { xname := "x0" }, ⟨.failed, some "no answer"⟩⟩
    let pool : Pool := { create 1 1 with queue := [{ job with number := 0 }] }
    ∃ back, pool.offer job = (.full back, pool) ∧ back.state.status = job.state.status ∧
      back.state.error = none ∧ back ≠ job := by
  intro job pool
  refine ⟨_, rfl, rfl, rfl, fun same => ?_⟩
  cases comesBack_eq_iff.mp same

end ClusterPower.Pool
