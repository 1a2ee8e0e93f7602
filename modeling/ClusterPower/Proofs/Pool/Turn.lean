import ClusterPower.Proofs.Ending
import ClusterPower.Proofs.Pool.Operation
import Mathlib.Algebra.BigOperators.Group.List.Basic
import Mathlib.Algebra.Order.Group.Multiset
import Mathlib.Tactic.Abel

/-!
Turns of a pool: what its workers and its winding down may do at any moment. The
tickets of a pool's jobs are what a turn conserves: each job stays, or is reported.
-/

namespace ClusterPower

/-! ## Tickets -/

/-- What a report has to match: the job, and the target that it was for. -/
structure Ticket where
  number : Nat
  command : Command
  target : Target

def Job.ticket (job : Job) : Ticket := ⟨job.number, job.command, job.target⟩

def JobReport.ticket (report : JobReport) : Ticket :=
  ⟨report.job.number, report.job.command, report.outcome.target⟩

theorem coe_map_cons {Item Key : Type} (key : Item → Key) (first : Item) (rest : List Item) :
    (((first :: rest).map key : List Key) : Multiset Key) = {key first} + ↑(rest.map key) :=
  rfl

theorem coe_map_concat {Item Key : Type} (key : Item → Key) (front : List Item) (last : Item) :
    (((front ++ [last]).map key : List Key) : Multiset Key) = ↑(front.map key) + {key last} := by
  rw [List.map_append, ← Multiset.coe_add]
  rfl

@[simp] theorem Job.ticket_number (job : Job) : job.ticket.number = job.number := rfl

@[simp] theorem Job.ticket_enqueue (job : Job) : job.enqueue.ticket = job.ticket := rfl

@[simp] theorem Job.ticket_giveUp (job : Job) : job.giveUp.ticket = job.ticket := rfl

def Worker.tickets : Worker → Multiset Ticket
  | .calling job => {job.ticket}
  | .reporting job _ => {job.ticket}
  | .idle | .gone => 0

namespace Pool

def tickets (pool : Pool) : Multiset Ticket :=
  ↑(pool.queue.map Job.ticket) + ↑(pool.waiting.map Job.ticket) +
    (pool.workers.map Worker.tickets).sum

/-! ## Turns -/

/-- One step of a pool on its own, with the reports made in it. `room` says of which
jobs a report finds room, and a call ends with any outcome that it may end with. -/
inductive Turn (call : Job → Conversation Outcome) (room : Job → Prop) (pool : Pool) :
    List JobReport → Pool → Prop
  | start (fresh : pool.started = false) : Turn call room pool [] pool.start
  | skip {index report after} (taken : pool.take? index = some (.skipped report, after)) :
      Turn call room pool [report] after
  | call {index job after} (taken : pool.take? index = some (.called job, after)) :
      Turn call room pool [] after
  | report {index job outcome report after}
      (calling : pool.workers[index]? = some (.calling job))
      (ends : (call job).MayEnd outcome) (free : room job)
      (reported : pool.report? index outcome = some (report, after)) :
      Turn call room pool [report] after
  | block {index job outcome after}
      (calling : pool.workers[index]? = some (.calling job))
      (ends : (call job).MayEnd outcome) (full : ¬room job)
      (blocked : pool.block? index outcome = some after) :
      Turn call room pool [] after
  | unblock {index job outcome report after}
      (reporting : pool.workers[index]? = some (.reporting job outcome)) (free : room job)
      (reported : pool.unblock? index = some (report, after)) :
      Turn call room pool [report] after
  | abort {index reports after} (aborted : pool.abort? index = some (reports, after)) :
      Turn call room pool reports after
  | close {after} (closed : pool.close? = some after) : Turn call room pool [] after
  | discard {report after} (discarded : pool.discard? = some (report, after)) :
      Turn call room pool [report] after

variable {call : Job → Conversation Outcome} {room : Job → Prop} {pool after : Pool}
  {reports : List JobReport}

/-! ## Pools in good order -/

/-- What operations keep of a pool, from its creation on. -/
structure Sound (pool : Pool) : Prop where
  sized : 0 < pool.size
  roomy : 0 < pool.capacity
  bounded : pool.queue.length ≤ pool.capacity
  unstaffed : pool.started = false → pool.workers = []
  staffed : pool.started = true → pool.workers.length = pool.size
  present : pool.stopped = false → ∀ worker ∈ pool.workers, Worker.isGone worker = false
  openUntilStopped : pool.stopped = false → pool.closed = false

theorem sound_create (size capacity : Nat) : (create size capacity).Sound where
  sized := by simp [create]
  roomy := by simp [create]
  bounded := by simp [create]
  unstaffed _ := rfl
  staffed started := by cases started
  present _ _ member := by cases member
  openUntilStopped _ := rfl

theorem sound_stop (sound : pool.Sound) : pool.stop.Sound :=
  { sound with
    present := fun stopped => by cases stopped
    openUntilStopped := fun stopped => by cases stopped }

theorem sound_start (sound : pool.Sound) : pool.start.Sound := by
  unfold start
  split
  · exact sound
  · exact { sound with
      unstaffed := fun fresh => by cases fresh
      staffed := fun _ => List.length_replicate
      present := fun _ worker member => by
        rw [List.eq_of_mem_replicate member]
        rfl }

theorem sound_setWorker (sound : pool.Sound) (index running : Nat) {worker : Worker}
    (here : pool.stopped = false → Worker.isGone worker = false) :
    { pool with workers := pool.workers.set index worker, running }.Sound :=
  { sound with
    unstaffed := fun fresh => by simp [sound.unstaffed fresh]
    staffed := fun started => by simpa using sound.staffed started
    present := fun going other member => by
      rcases List.mem_or_eq_of_mem_set member with member | rfl
      · exact sound.present going other member
      · exact here going }

theorem sound_dequeue (sound : pool.Sound) {job : Job} {rest : List Job}
    (queued : pool.queue = job :: rest) : { pool with queue := rest }.Sound :=
  { sound with
    bounded := by
      have bounded := sound.bounded
      rw [queued, List.length_cons] at bounded
      exact Nat.le_of_succ_le bounded }

theorem Turn.sound (turn : Turn call room pool reports after) (sound : pool.Sound) :
    after.Sound := by
  cases turn with
  | start fresh => exact sound_start sound
  | skip taken =>
      rcases take?_skipped taken with ⟨job, rest, queued, _, rfl, rfl⟩
      exact sound_dequeue sound queued
  | call taken =>
      rcases take?_called taken with ⟨job, rest, _, queued, _, rfl, rfl⟩
      exact sound_setWorker (sound_dequeue sound queued) _ _ fun _ => rfl
  | report calling ends free reported =>
      rcases report?_some calling reported with ⟨rfl, rfl⟩
      exact sound_setWorker sound _ _ fun _ => rfl
  | block calling ends full blocked =>
      rcases block?_some calling blocked with rfl
      exact sound_setWorker sound _ _ fun _ => rfl
  | unblock reporting free reported =>
      rcases unblock?_some reporting reported with ⟨rfl, rfl⟩
      exact sound_setWorker sound _ _ fun _ => rfl
  | abort aborted =>
      rcases abort?_some aborted with ⟨worker, found, _, stopped, rfl, rfl⟩
      exact sound_setWorker sound _ _ fun going => by rw [stopped] at going; cases going
  | close closed =>
      rcases close?_some closed with ⟨stopped, _, rfl⟩
      exact { sound with
        openUntilStopped := fun going => by rw [stopped] at going; cases going }
  | discard discarded =>
      rcases discard?_some discarded with ⟨job, rest, queued, _, rfl, rfl⟩
      exact sound_dequeue sound queued

/-! ## What a turn leaves alone -/

theorem Turn.frame (turn : Turn call room pool reports after) :
    after = pool.start ∨
      ∃ queue workers running closed kept, queue.Sublist pool.queue ∧
        after = { pool with queue, workers, running, closed, kept } := by
  cases turn with
  | start fresh => exact Or.inl rfl
  | skip taken =>
      rcases take?_skipped taken with ⟨job, rest, queued, _, _, rfl⟩
      exact Or.inr ⟨rest, _, _, _, _, queued ▸ List.sublist_cons_self job rest, rfl⟩
  | call taken =>
      rcases take?_called taken with ⟨job, rest, _, queued, _, _, rfl⟩
      exact Or.inr ⟨rest, _, _, _, _, queued ▸ List.sublist_cons_self job rest, rfl⟩
  | report calling ends free reported =>
      rcases report?_some calling reported with ⟨_, rfl⟩
      exact Or.inr ⟨_, _, _, _, _, List.Sublist.refl _, rfl⟩
  | block calling ends full blocked =>
      rcases block?_some calling blocked with rfl
      exact Or.inr ⟨_, _, _, _, _, List.Sublist.refl _, rfl⟩
  | unblock reporting free reported =>
      rcases unblock?_some reporting reported with ⟨_, rfl⟩
      exact Or.inr ⟨_, _, _, _, _, List.Sublist.refl _, rfl⟩
  | abort aborted =>
      rcases abort?_some aborted with ⟨_, _, _, _, _, rfl⟩
      exact Or.inr ⟨_, _, _, _, _, List.Sublist.refl _, rfl⟩
  | close closed =>
      rcases close?_some closed with ⟨_, _, rfl⟩
      exact Or.inr ⟨_, _, _, _, _, List.Sublist.refl _, rfl⟩
  | discard discarded =>
      rcases discard?_some discarded with ⟨job, rest, queued, _, _, rfl⟩
      exact Or.inr ⟨rest, _, _, _, _, queued ▸ List.sublist_cons_self job rest, rfl⟩

theorem start_waiting (pool : Pool) : pool.start.waiting = pool.waiting := by
  unfold start
  split <;> rfl

theorem start_stopped (pool : Pool) : pool.start.stopped = pool.stopped := by
  unfold start
  split <;> rfl

theorem Turn.waiting_eq (turn : Turn call room pool reports after) :
    after.waiting = pool.waiting := by
  rcases turn.frame with rfl | ⟨_, _, _, _, _, _, rfl⟩
  · exact start_waiting pool
  · rfl

theorem Turn.stopped_eq (turn : Turn call room pool reports after) :
    after.stopped = pool.stopped := by
  rcases turn.frame with rfl | ⟨_, _, _, _, _, _, rfl⟩
  · exact start_stopped pool
  · rfl

theorem Turn.reporting (turn : Turn call room pool reports after) {job : Job}
    {outcome : Outcome} (member : Worker.reporting job outcome ∈ after.workers) :
    Worker.reporting job outcome ∈ pool.workers ∨
      ¬room job ∧ ∃ index : Nat, pool.workers[index]? = some (Worker.calling job) := by
  cases turn with
  | start fresh =>
      simp only [Pool.start, fresh, Bool.false_eq_true, if_false] at member
      cases List.eq_of_mem_replicate member
  | skip taken =>
      rcases take?_skipped taken with ⟨_, _, _, _, _, rfl⟩
      exact Or.inl member
  | call taken =>
      rcases take?_called taken with ⟨_, _, _, _, _, _, rfl⟩
      rcases List.mem_or_eq_of_mem_set member with member | equal
      · exact Or.inl member
      · cases equal
  | report calling ends free reported =>
      rcases report?_some calling reported with ⟨_, rfl⟩
      rcases List.mem_or_eq_of_mem_set member with member | equal
      · exact Or.inl member
      · cases equal
  | block calling ends full blocked =>
      rcases block?_some calling blocked with rfl
      rcases List.mem_or_eq_of_mem_set member with member | equal
      · exact Or.inl member
      · cases equal
        exact Or.inr ⟨full, _, calling⟩
  | unblock reporting free reported =>
      rcases unblock?_some reporting reported with ⟨_, rfl⟩
      rcases List.mem_or_eq_of_mem_set member with member | equal
      · exact Or.inl member
      · cases equal
  | abort aborted =>
      rcases abort?_some aborted with ⟨_, _, _, _, _, rfl⟩
      rcases List.mem_or_eq_of_mem_set member with member | equal
      · exact Or.inl member
      · cases equal
  | close closed =>
      rcases close?_some closed with ⟨_, _, rfl⟩
      exact Or.inl member
  | discard discarded =>
      rcases discard?_some discarded with ⟨_, _, _, _, _, rfl⟩
      exact Or.inl member

theorem start_queue (pool : Pool) : pool.start.queue = pool.queue := by
  unfold start
  split <;> rfl

theorem Turn.queue_sublist (turn : Turn call room pool reports after) :
    after.queue.Sublist pool.queue := by
  rcases turn.frame with rfl | ⟨_, _, _, _, _, shorter, rfl⟩
  · rw [start_queue]
  · exact shorter

/-- What a pool reports that goes on is the end of a call, unless the job had been
cancelled, or its worker was kept waiting. -/
theorem Turn.answered (turn : Turn call room pool reports after) (sound : pool.Sound)
    (going : pool.stopped = false) {report : JobReport} (member : report ∈ reports) :
    (call report.job).MayEnd report.outcome ∨
      (report.job ∈ pool.queue ∧ report.job.state.status = .cancelled) ∨
      Worker.reporting report.job report.outcome ∈ pool.workers := by
  cases turn with
  | start | call | block | close => cases member
  | skip taken =>
      rcases take?_skipped taken with ⟨job, rest, queued, cancelled, rfl, rfl⟩
      rw [List.mem_singleton.mp member, queued]
      exact Or.inr (Or.inl ⟨List.mem_cons_self, cancelled⟩)
  | report calling ends free reported =>
      rcases report?_some calling reported with ⟨rfl, _⟩
      rw [List.mem_singleton.mp member]
      exact Or.inl ends
  | unblock reporting free reported =>
      rcases unblock?_some reporting reported with ⟨rfl, _⟩
      rw [List.mem_singleton.mp member]
      exact Or.inr (Or.inr (List.mem_of_getElem? reporting))
  | abort aborted =>
      rcases abort?_some aborted with ⟨_, _, _, stopped, _, _⟩
      rw [going] at stopped
      cases stopped
  | discard discarded =>
      rcases discard?_some discarded with ⟨_, _, _, closed, _, _⟩
      rw [sound.openUntilStopped going] at closed
      cases closed

/-! ## What a turn conserves -/

theorem sum_map_set {Item Amount : Type} [AddCommMonoid Amount] (amount : Item → Amount)
    {items : List Item} {index : Nat} {old : Item} (new : Item)
    (found : items[index]? = some old) :
    ((items.set index new).map amount).sum + amount old =
      (items.map amount).sum + amount new := by
  induction items generalizing index with
  | nil => cases found
  | cons first rest induction =>
      cases index with
      | zero =>
          cases found
          simp only [List.set_cons_zero, List.map_cons, List.sum_cons]
          abel
      | succ index =>
          have later := @induction index (by simpa using found)
          simp only [List.set_cons_succ, List.map_cons, List.sum_cons, add_assoc, later]

theorem tickets_start (sound : pool.Sound) : pool.start.tickets = pool.tickets := by
  unfold start
  split
  · rfl
  · next fresh =>
    have nobody := sound.unstaffed (by simpa using fresh)
    simp [tickets, nobody, Worker.tickets, List.sum_replicate]

theorem tickets_setWorker (pool : Pool) {index : Nat} {old : Worker} (new : Worker)
    (running : Nat)
    (found : pool.workers[index]? = some old) :
    { pool with workers := pool.workers.set index new, running }.tickets + old.tickets =
      pool.tickets + new.tickets := by
  have replaced := sum_map_set Worker.tickets new found
  simp only [tickets, add_assoc] at replaced ⊢
  rw [replaced]

theorem tickets_dequeue {job : Job} {rest : List Job} (queued : pool.queue = job :: rest) :
    pool.tickets = { pool with queue := rest }.tickets + {job.ticket} := by
  simp only [tickets, queued, coe_map_cons]
  abel

theorem tickets_enqueue (job : Job) :
    { pool with queue := pool.queue ++ [job] }.tickets = pool.tickets + {job.ticket} := by
  simp only [tickets, coe_map_concat]
  abel

theorem tickets_await (job : Job) :
    { pool with waiting := pool.waiting ++ [job] }.tickets = pool.tickets + {job.ticket} := by
  simp only [tickets, coe_map_concat]
  abel

theorem coe_tickets_eraseIdx {jobs : List Job} {index : Nat} {job : Job}
    (found : jobs[index]? = some job) :
    (jobs.map Job.ticket : Multiset Ticket) =
      ↑((jobs.eraseIdx index).map Job.ticket) + {job.ticket} := by
  rcases List.getElem?_eq_some_iff.mp found with ⟨within, rfl⟩
  have moved := ((List.getElem_cons_eraseIdx_perm within).map Job.ticket).symm
  rw [Multiset.coe_eq_coe.mpr moved, coe_map_cons, add_comm]

theorem tickets_enter {index : Nat} {job : Job} (found : pool.waiting[index]? = some job) :
    { pool with
      queue := pool.queue ++ [job]
      waiting := pool.waiting.eraseIdx index }.tickets = pool.tickets := by
  simp only [tickets, coe_tickets_eraseIdx found, coe_map_concat]
  abel

theorem tickets_dismiss {index : Nat} {job : Job} (kept : Nat)
    (found : pool.waiting[index]? = some job) :
    pool.tickets =
      { pool with waiting := pool.waiting.eraseIdx index, kept }.tickets + {job.ticket} := by
  simp only [tickets, coe_tickets_eraseIdx found]
  abel

theorem ticket_mem_of_worker {index : Nat} {worker : Worker} {ticket : Ticket}
    (found : pool.workers[index]? = some worker) (member : ticket ∈ worker.tickets) :
    ticket ∈ pool.tickets := by
  have replaced := pool.tickets_setWorker .idle pool.running found
  simp only [Worker.tickets, add_zero] at replaced
  rw [← replaced]
  exact Multiset.mem_add.mpr (Or.inr member)

theorem ticket_mem_of_mem {job : Job} (member : job ∈ pool.queue ++ pool.waiting) :
    job.ticket ∈ pool.tickets := by
  have listed := Multiset.mem_coe.mpr (List.mem_map_of_mem member (f := Job.ticket))
  rw [List.map_append, ← Multiset.coe_add] at listed
  exact Multiset.mem_add.mpr (Or.inl listed)

/-- No turn loses a job: each stays, or is reported under its ticket. Only the outcome
of a worker that found no room may be lost, so such a job must not be among these. -/
theorem Turn.conserves (mine : Ticket → Prop) [DecidablePred mine]
    (turn : Turn call room pool reports after) (sound : pool.Sound)
    (named : ∀ job outcome, (call job).MayEnd outcome → outcome.target = job.target)
    (unblocked : ∀ job outcome, .reporting job outcome ∈ pool.workers →
      ∀ ticket : Ticket, ticket.number = job.number → ¬mine ticket) :
    pool.tickets.filter mine =
      after.tickets.filter mine + Multiset.filter mine ↑(reports.map JobReport.ticket) := by
  cases turn with
  | start fresh => rw [tickets_start sound]; simp
  | skip taken =>
      rcases take?_skipped taken with ⟨job, rest, queued, _, rfl, rfl⟩
      rw [tickets_dequeue queued, Multiset.filter_add]
      rfl
  | call taken =>
      rcases take?_called taken with ⟨job, rest, idle, queued, _, rfl, rfl⟩
      have replaced := tickets_setWorker { pool with queue := rest }
        (.calling { job with state := ⟨.inProgress, none⟩ }) (pool.running + 1) idle
      simp only [Worker.tickets, add_zero] at replaced
      rw [tickets_dequeue queued, replaced]
      simp [Job.ticket]
  | @report index job outcome _ _ calling ends free reported =>
      rcases report?_some calling reported with ⟨rfl, rfl⟩
      have replaced := pool.tickets_setWorker .idle (pool.running - 1) calling
      have same : (⟨job, outcome⟩ : JobReport).ticket = job.ticket := by
        rw [JobReport.ticket, named job outcome ends, Job.ticket]
      simp only [Worker.tickets, add_zero] at replaced
      rw [← replaced, Multiset.filter_add, List.map_cons, same]
      rfl
  | @block index job outcome _ calling ends full blocked =>
      rcases block?_some calling blocked with rfl
      have replaced := pool.tickets_setWorker (.reporting job outcome) pool.running calling
      rw [add_right_cancel replaced]
      simp
  | @unblock index job outcome _ _ reporting free reported =>
      rcases unblock?_some reporting reported with ⟨rfl, rfl⟩
      have replaced := pool.tickets_setWorker .idle (pool.running - 1) reporting
      have foreign := unblocked job outcome (List.mem_of_getElem? reporting)
      simp only [Worker.tickets, add_zero] at replaced
      rw [← replaced]
      simp [Multiset.filter_singleton, foreign job.ticket rfl,
        foreign (⟨job, outcome⟩ : JobReport).ticket rfl]
  | abort aborted =>
      rcases abort?_some aborted with ⟨worker, found, _, _, rfl, rfl⟩
      have replaced := pool.tickets_setWorker .gone pool.running found
      have filtered := congrArg (Multiset.filter mine) replaced
      rw [Multiset.filter_add, Multiset.filter_add] at filtered
      cases worker with
      | idle => simpa [Worker.tickets, Worker.abandoned] using filtered.symm
      | calling job => simpa [Worker.tickets, Worker.abandoned] using filtered.symm
      | reporting job outcome =>
          have foreign := unblocked job outcome (List.mem_of_getElem? found)
          simpa [Worker.tickets, Worker.abandoned, Multiset.filter_singleton,
            foreign job.ticket rfl] using filtered.symm
      | gone => simpa [Worker.tickets, Worker.abandoned] using filtered.symm
  | close closed =>
      rcases close?_some closed with ⟨_, _, rfl⟩
      simp [tickets]
  | discard discarded =>
      rcases discard?_some discarded with ⟨job, rest, queued, _, rfl, rfl⟩
      rw [tickets_dequeue queued, Multiset.filter_add]
      rfl

end Pool

end ClusterPower
