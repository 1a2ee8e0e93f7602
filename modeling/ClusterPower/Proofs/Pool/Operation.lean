import ClusterPower.Pool.Basic

/-!
The operations of a pool taken apart into their smallest steps, since other parties
may act between them: `Pool.submit` looks whether the pool is stopped before it hands
over the job, and `Pool.drain?` gives up one job after the other.
-/

namespace ClusterPower

namespace Pool

/-! ## Submitting, in two steps -/

def send (pool : Pool) (job : Job) : Submission × Pool :=
  if pool.closed then (.refused job.giveUp, pool)
  else if pool.hasRoom then
    (.accepted, { pool with queue := pool.queue ++ [job] })
  else (.waiting, { pool with waiting := pool.waiting ++ [job] })

theorem submit_eq_send (pool : Pool) (job : Job) :
    pool.submit job =
      if pool.stopped then (.refused job.giveUp, pool) else pool.send job.enqueue := rfl

/-! ## Draining, in small steps -/

/-- Close the queue. Submissions keep the places that they have until they learn of it. -/
def close? (pool : Pool) : Option Pool :=
  if pool.stopped && !pool.closed then some { pool with closed := true, kept := pool.granted }
  else none

def discard? (pool : Pool) : Option (JobReport × Pool) :=
  match pool.queue with
  | job :: rest =>
    if pool.closed then some (job.giveUp, { pool with queue := rest }) else none
  | [] => none

/-- Give up a submission that waits for a closed queue. They learn of it in any
order, and give back the places that they have. -/
def dismiss? (pool : Pool) (index : Nat) : Option (Job × Pool) :=
  match pool.waiting[index]? with
  | some job =>
    if pool.closed then
      some (job, { pool with
        waiting := pool.waiting.eraseIdx index
        kept := if index < pool.kept then pool.kept - 1 else pool.kept })
    else none
  | none => none

theorem drain?_eq_close? (pool : Pool) :
    pool.drain? = pool.close?.map fun closed =>
      ((closed.queue ++ closed.waiting).map Job.giveUp,
        { closed with queue := [], waiting := [], kept := 0 }) := by
  unfold drain? close?
  split <;> rfl

/-! ## Places of an open queue -/

section Open

variable {pool : Pool} (unclosed : pool.closed = false)

include unclosed

theorem granted_of_unclosed :
    pool.granted = min pool.waiting.length (pool.capacity - pool.queue.length) := by
  rw [granted, unclosed, if_neg Bool.false_ne_true]

theorem room_of_unclosed :
    pool.room = pool.capacity - (pool.queue.length + pool.waiting.length) := by
  rw [room, granted_of_unclosed unclosed]
  omega

theorem hasRoom_iff :
    pool.hasRoom = true ↔ pool.queue.length + pool.waiting.length < pool.capacity := by
  rw [hasRoom, decide_eq_true_iff, room_of_unclosed unclosed]
  omega

theorem length_lt_of_granted {index : Nat} (admitted : index < pool.granted) :
    pool.queue.length < pool.capacity := by
  rw [granted_of_unclosed unclosed] at admitted
  omega

end Open

theorem length_lt_of_hasRoom {pool : Pool} (free : pool.hasRoom = true) :
    pool.queue.length < pool.capacity := by
  rw [hasRoom, decide_eq_true_iff, room] at free
  omega

/-! ## What each operation does

One lemma for each operation says all that it does when it can be done. -/

variable {pool after : Pool} {index : Nat} {job : Job} {report : JobReport}
  {outcome : Outcome} {reports : List JobReport}

theorem take?_skipped (taken : pool.take? index = some (.skipped report, after)) :
    ∃ job rest, pool.queue = job :: rest ∧ job.state.status = .cancelled ∧
      report = job.giveUp ∧ after = { pool with queue := rest } := by
  unfold take? at taken
  split at taken
  · next job rest _ queued =>
    split at taken
    · next cancelled =>
      cases taken
      exact ⟨job, rest, queued, cancelled, rfl, rfl⟩
    · cases taken
  · cases taken

theorem take?_called (taken : pool.take? index = some (.called job, after)) :
    ∃ queued rest, pool.workers[index]? = some .idle ∧ pool.queue = queued :: rest ∧
      queued.state.status ≠ .cancelled ∧
      job = { queued with state := ⟨.inProgress, none⟩ } ∧
      after = { pool with
        queue := rest
        workers := pool.workers.set index (.calling job)
        running := pool.running + 1 } := by
  unfold take? at taken
  split at taken
  · next queued rest idle queue =>
    split at taken
    · cases taken
    · next uncancelled =>
      cases taken
      exact ⟨queued, rest, idle, queue, uncancelled, rfl, rfl⟩
  · cases taken

theorem report?_some (calling : pool.workers[index]? = some (.calling job))
    (reported : pool.report? index outcome = some (report, after)) :
    report = ⟨job, outcome⟩ ∧ after = { pool with
      workers := pool.workers.set index .idle
      running := pool.running - 1 } := by
  simp only [report?, calling] at reported
  cases reported
  exact ⟨rfl, rfl⟩

theorem block?_some (calling : pool.workers[index]? = some (.calling job))
    (blocked : pool.block? index outcome = some after) :
    after = { pool with workers := pool.workers.set index (.reporting job outcome) } := by
  simp only [block?, calling] at blocked
  cases blocked
  rfl

theorem unblock?_some (reporting : pool.workers[index]? = some (.reporting job outcome))
    (reported : pool.unblock? index = some (report, after)) :
    report = ⟨job, outcome⟩ ∧ after = { pool with
      workers := pool.workers.set index .idle
      running := pool.running - 1 } := by
  simp only [unblock?, reporting] at reported
  cases reported
  exact ⟨rfl, rfl⟩

theorem abort?_some (aborted : pool.abort? index = some (reports, after)) :
    ∃ worker, pool.workers[index]? = some worker ∧ Worker.isGone worker = false ∧
      pool.stopped = true ∧ reports = Worker.abandoned worker ∧
      after = { pool with workers := pool.workers.set index .gone } := by
  unfold abort? at aborted
  split at aborted
  · cases aborted
  · next worker notGone found =>
    split at aborted
    · next stopped =>
      cases aborted
      refine ⟨worker, found, ?_, stopped, rfl, rfl⟩
      cases worker with
      | gone => exact absurd rfl notGone
      | idle | calling | reporting => rfl
    · cases aborted
  · cases aborted

theorem close?_some (closed : pool.close? = some after) :
    pool.stopped = true ∧ pool.closed = false ∧
      after = { pool with closed := true, kept := pool.granted } := by
  unfold close? at closed
  split at closed
  · next both =>
    cases closed
    simpa using both
  · cases closed

theorem discard?_some (discarded : pool.discard? = some (report, after)) :
    ∃ job rest, pool.queue = job :: rest ∧ pool.closed = true ∧ report = job.giveUp ∧
      after = { pool with queue := rest } := by
  unfold discard? at discarded
  split at discarded
  · next job rest queued =>
    split at discarded
    · next closed =>
      cases discarded
      exact ⟨job, rest, queued, closed, rfl, rfl⟩
    · cases discarded
  · cases discarded

theorem dismiss?_some (dismissed : pool.dismiss? index = some (job, after)) :
    pool.waiting[index]? = some job ∧ pool.closed = true ∧
      after = { pool with
        waiting := pool.waiting.eraseIdx index
        kept := if index < pool.kept then pool.kept - 1 else pool.kept } := by
  unfold dismiss? at dismissed
  split at dismissed
  · next found =>
    split at dismissed
    · next closed =>
      cases dismissed
      exact ⟨found, closed, rfl⟩
    · cases dismissed
  · cases dismissed

theorem enter?_some (entered : pool.enter? index = some (job, after)) :
    pool.waiting[index]? = some job ∧ index < pool.granted ∧ pool.closed = false ∧
      after = { pool with
        queue := pool.queue ++ [job]
        waiting := pool.waiting.eraseIdx index } := by
  unfold enter? at entered
  split at entered
  · next found =>
    split at entered
    · next admitted =>
      cases entered
      simp only [Bool.and_eq_true, decide_eq_true_iff, Bool.not_eq_true'] at admitted
      exact ⟨found, admitted.1, admitted.2, rfl⟩
    · cases entered
  · cases entered

theorem send_accepted (sent : pool.send job = (.accepted, after)) :
    pool.closed = false ∧ pool.hasRoom = true ∧
      after = { pool with queue := pool.queue ++ [job] } := by
  unfold send at sent
  split at sent
  · cases sent
  · next unclosed =>
    split at sent
    · next free =>
      cases sent
      exact ⟨by simpa using unclosed, free, rfl⟩
    · cases sent

theorem send_waiting (sent : pool.send job = (.waiting, after)) :
    pool.closed = false ∧ pool.hasRoom = false ∧
      after = { pool with waiting := pool.waiting ++ [job] } := by
  unfold send at sent
  split at sent
  · cases sent
  · next unclosed =>
    split at sent
    · cases sent
    · next full =>
      cases sent
      exact ⟨by simpa using unclosed, by simpa using full, rfl⟩

theorem send_refused (sent : pool.send job = (.refused report, after)) :
    pool.closed = true ∧ report = job.giveUp ∧ after = pool := by
  unfold send at sent
  split at sent
  · next closed =>
    cases sent
    exact ⟨closed, rfl, rfl⟩
  · split at sent <;> cases sent

/-! ## When each operation can be done -/

theorem exists_take? {rest : List Job} (idle : pool.workers[index]? = some .idle)
    (queued : pool.queue = job :: rest) :
    ∃ taken after, pool.take? index = some (taken, after) := by
  simp only [take?, idle, queued]
  split
  · exact ⟨_, _, rfl⟩
  · exact ⟨_, _, rfl⟩

theorem exists_report? (calling : pool.workers[index]? = some (.calling job))
    (outcome : Outcome) : ∃ report after, pool.report? index outcome = some (report, after) := by
  simp only [report?, calling]
  exact ⟨_, _, rfl⟩

theorem exists_block? (calling : pool.workers[index]? = some (.calling job))
    (outcome : Outcome) : ∃ after, pool.block? index outcome = some after := by
  simp only [block?, calling]
  exact ⟨_, rfl⟩

theorem exists_unblock? (reporting : pool.workers[index]? = some (.reporting job outcome)) :
    ∃ report after, pool.unblock? index = some (report, after) := by
  simp only [unblock?, reporting]
  exact ⟨_, _, rfl⟩

theorem exists_close? (stopped : pool.stopped = true) (unclosed : pool.closed = false) :
    ∃ after, pool.close? = some after := by
  simp [close?, stopped, unclosed]

theorem exists_discard? {rest : List Job} (queued : pool.queue = job :: rest)
    (closed : pool.closed = true) :
    ∃ report after, pool.discard? = some (report, after) := by
  simp [discard?, queued, closed]

theorem exists_dismiss? {rest : List Job} (waiting : pool.waiting = job :: rest)
    (closed : pool.closed = true) :
    ∃ after, pool.dismiss? 0 = some (job, after) := by
  simp [dismiss?, waiting, closed]

theorem exists_enter? {rest : List Job} (waiting : pool.waiting = job :: rest)
    (short : pool.queue.length < pool.capacity) (unclosed : pool.closed = false) :
    ∃ after, pool.enter? 0 = some (job, after) := by
  have granted : 0 < pool.granted := by
    rw [Pool.granted, unclosed, if_neg Bool.false_ne_true, waiting, List.length_cons]
    omega
  simp [enter?, waiting, granted, unclosed]

end Pool

end ClusterPower
