import ClusterPower.Proofs.Pool.Turn

/-!
Pools come to rest: every turn uses up some of the work that is left, and a pool that
can take no turn has no job in its hands except submissions that wait.
-/

namespace ClusterPower

def Worker.work : Worker → Nat
  | .calling _ => 4
  | .reporting _ _ => 3
  | .idle => 1
  | .gone => 0

namespace Pool

def work (pool : Pool) : Nat :=
  4 * pool.queue.length + 5 * pool.waiting.length + (pool.workers.map Worker.work).sum +
    (if pool.started then 0 else pool.size + 1) + (if pool.stopped then 0 else 1) +
    (if pool.closed then 0 else 1)

variable {call : Job → Conversation Outcome} {room : Job → Prop} {pool after : Pool}
  {reports : List JobReport}

theorem work_start (sound : pool.Sound) (fresh : pool.started = false) :
    pool.start.work + 1 = pool.work := by
  have idlers : ((List.replicate pool.size Worker.idle).map Worker.work).sum = pool.size := by
    simp [Worker.work]
  simp only [start, fresh, work, sound.unstaffed fresh, idlers, Bool.false_eq_true, if_false,
    if_true, List.map_nil, List.sum_nil]
  omega

theorem work_setWorker (pool : Pool) {index : Nat} {old : Worker} (new : Worker)
    (running : Nat) (found : pool.workers[index]? = some old) :
    { pool with workers := pool.workers.set index new, running }.work + old.work =
      pool.work + new.work := by
  have replaced := sum_map_set Worker.work new found
  simp only [work]
  omega

theorem work_dequeue {job : Job} {rest : List Job} (queued : pool.queue = job :: rest) :
    { pool with queue := rest }.work + 4 = pool.work := by
  simp only [work, queued, List.length_cons]
  omega

theorem work_enqueue (pool : Pool) (job : Job) :
    { pool with queue := pool.queue ++ [job] }.work = pool.work + 4 := by
  simp only [work, List.length_append, List.length_cons, List.length_nil]
  omega

theorem work_await (pool : Pool) (job : Job) :
    { pool with waiting := pool.waiting ++ [job] }.work = pool.work + 5 := by
  simp only [work, List.length_append, List.length_cons, List.length_nil]
  omega

theorem work_enter {index : Nat} {job : Job} (found : pool.waiting[index]? = some job) :
    { pool with
      queue := pool.queue ++ [job]
      waiting := pool.waiting.eraseIdx index }.work + 1 = pool.work := by
  rcases List.getElem?_eq_some_iff.mp found with ⟨within, _⟩
  have shorter := List.length_eraseIdx_add_one within
  simp only [work, ← shorter, List.length_append, List.length_cons, List.length_nil]
  omega

theorem work_dismiss {index : Nat} {job : Job} (kept : Nat)
    (found : pool.waiting[index]? = some job) :
    { pool with waiting := pool.waiting.eraseIdx index, kept }.work + 5 = pool.work := by
  rcases List.getElem?_eq_some_iff.mp found with ⟨within, _⟩
  have shorter := List.length_eraseIdx_add_one within
  simp only [work, ← shorter]
  omega

theorem work_stop (going : pool.stopped = false) : pool.stop.work + 1 = pool.work := by
  unfold stop
  simp only [work, going, Bool.false_eq_true, if_false, if_true]
  omega

theorem Turn.work_lt (turn : Turn call room pool reports after) (sound : pool.Sound) :
    after.work + reports.length < pool.work := by
  cases turn with
  | start fresh =>
      have done := work_start sound fresh
      rw [List.length_nil]
      omega
  | skip taken =>
      rcases take?_skipped taken with ⟨job, rest, queued, _, rfl, rfl⟩
      have done := work_dequeue queued
      rw [List.length_singleton]
      omega
  | call taken =>
      rcases take?_called taken with ⟨job, rest, idle, queued, _, rfl, rfl⟩
      have done := work_dequeue queued
      have replaced := work_setWorker { pool with queue := rest }
        (.calling { job with state := ⟨.inProgress, none⟩ }) (pool.running + 1) idle
      simp only [Worker.work] at replaced
      rw [List.length_nil]
      omega
  | report calling ends free reported =>
      rcases report?_some calling reported with ⟨rfl, rfl⟩
      have replaced := pool.work_setWorker .idle (pool.running - 1) calling
      simp only [Worker.work] at replaced
      rw [List.length_singleton]
      omega
  | @block index job outcome _ calling ends full blocked =>
      rcases block?_some calling blocked with rfl
      have replaced := pool.work_setWorker (.reporting job outcome) pool.running calling
      simp only [Worker.work] at replaced
      rw [List.length_nil]
      omega
  | unblock reporting free reported =>
      rcases unblock?_some reporting reported with ⟨rfl, rfl⟩
      have replaced := pool.work_setWorker .idle (pool.running - 1) reporting
      simp only [Worker.work] at replaced
      rw [List.length_singleton]
      omega
  | abort aborted =>
      rcases abort?_some aborted with ⟨worker, found, here, _, rfl, rfl⟩
      have replaced := pool.work_setWorker .gone pool.running found
      cases worker with
      | gone => cases here
      | idle | calling | reporting =>
          simp only [Worker.work, Worker.abandoned, List.length_nil, List.length_singleton]
            at replaced ⊢
          omega
  | close closed =>
      rcases close?_some closed with ⟨_, unclosed, rfl⟩
      simp only [work, unclosed, Bool.false_eq_true, if_false, if_true, List.length_nil]
      omega
  | discard discarded =>
      rcases discard?_some discarded with ⟨job, rest, queued, _, rfl, rfl⟩
      have done := work_dequeue queued
      rw [List.length_singleton]
      omega

/-! ## At rest -/

/-- A pool that can take no turn. -/
def Rests (call : Job → Conversation Outcome) (room : Job → Prop) (pool : Pool) : Prop :=
  ∀ reports after, ¬Turn call room pool reports after

namespace Rests

variable (rests : pool.Rests call room)

include rests

theorem started : pool.started = true := by
  cases fresh : pool.started with
  | true => rfl
  | false => exact absurd (.start fresh) (rests _ _)

theorem not_calling {index : Nat} {job : Job} :
    pool.workers[index]? ≠ some (.calling job) := by
  intro calling
  rcases Conversation.exists_mayEnd (call job) with ⟨outcome, ends⟩
  by_cases free : room job
  · rcases exists_report? calling outcome with ⟨report, after, reported⟩
    exact rests _ _ (.report calling ends free reported)
  · rcases exists_block? calling outcome with ⟨after, blocked⟩
    exact rests _ _ (.block calling ends free blocked)

theorem not_reporting {index : Nat} {job : Job} {outcome : Outcome} (free : room job) :
    pool.workers[index]? ≠ some (.reporting job outcome) := by
  intro reporting
  rcases exists_unblock? reporting with ⟨report, after, reported⟩
  exact rests _ _ (.unblock reporting free reported)

theorem queue_eq_nil_of_idle {index : Nat} (idle : pool.workers[index]? = some .idle) :
    pool.queue = [] := by
  cases queued : pool.queue with
  | nil => rfl
  | cons job rest =>
      rcases exists_take? idle queued with ⟨taken, after, done⟩
      cases taken with
      | skipped report => exact absurd (.skip done) (rests _ _)
      | called job => exact absurd (.call done) (rests _ _)

theorem closed_of_stopped (stopped : pool.stopped = true) : pool.closed = true := by
  cases unclosed : pool.closed with
  | true => rfl
  | false =>
      rcases exists_close? stopped unclosed with ⟨after, closed⟩
      exact absurd (.close closed) (rests _ _)

theorem queue_eq_nil_of_closed (closed : pool.closed = true) : pool.queue = [] := by
  cases queued : pool.queue with
  | nil => rfl
  | cons job rest =>
      rcases exists_discard? queued closed with ⟨report, after, discarded⟩
      exact absurd (.discard discarded) (rests _ _)

variable (sound : pool.Sound)
  (free : ∀ job outcome, .reporting job outcome ∈ pool.workers → room job)

include sound free

theorem idle_of_going (going : pool.stopped = false) : pool.workers[0]? = some .idle := by
  have staffed := sound.staffed rests.started
  have sized := sound.sized
  have within : 0 < pool.workers.length := by omega
  have found := List.getElem?_eq_getElem within
  have member := List.getElem_mem within
  cases worker : pool.workers[0] with
  | idle => rw [found, worker]
  | calling job => exact absurd (worker ▸ found) rests.not_calling
  | reporting job outcome =>
      rw [worker] at found member
      exact absurd found (rests.not_reporting (free job outcome member))
  | gone =>
      rw [worker] at member
      cases sound.present going _ member

theorem queue_eq_nil : pool.queue = [] := by
  cases stopped : pool.stopped with
  | true => exact rests.queue_eq_nil_of_closed (rests.closed_of_stopped stopped)
  | false => exact rests.queue_eq_nil_of_idle (rests.idle_of_going sound free stopped)

theorem tickets_eq : pool.tickets = ↑(pool.waiting.map Job.ticket) := by
  have nobody : (pool.workers.map Worker.tickets).sum = 0 := by
    rw [List.sum_eq_zero]
    intro tickets member
    rcases List.mem_map.mp member with ⟨worker, present, rfl⟩
    rcases List.getElem?_of_mem present with ⟨index, found⟩
    cases worker with
    | idle | gone => rfl
    | calling job => exact absurd found rests.not_calling
    | reporting job outcome =>
        exact absurd found (rests.not_reporting (free job outcome present))
  rw [tickets, nobody, rests.queue_eq_nil sound free, add_zero]
  exact zero_add _

end Rests

end Pool

end ClusterPower
