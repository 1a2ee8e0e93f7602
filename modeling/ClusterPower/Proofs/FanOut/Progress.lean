import ClusterPower.Proofs.FanOut.Dialogue

/-!
Callers never wait for each other in a circle. They submit all their jobs before they read
the first report, but there is room for every report, so that no worker has to wait with
one, and the pool goes on to take jobs.
-/

namespace ClusterPower

theorem Pool.calling?_release {pool after : Pool} {index : Nat} {job : Job} {outcome : Outcome}
    (reporting : pool.workers[index]? = some (.reporting job outcome))
    (changed : after.workers = pool.workers.set index .idle) :
    after.calling? = pool.calling? := by
  funext other
  unfold calling?
  rw [changed, List.getElem?_set]
  by_cases same : index = other
  · rcases List.getElem?_eq_some_iff.mp reporting with ⟨within, _⟩
    rw [if_pos same, ← same, reporting, if_pos within]
  · rw [if_neg same]

namespace FanOut

variable {Place : Type} [DecidableEq Place] {owner : Nat → Option Place} {gateway : Gateway}
  {requests : Place → Request} {opening dialogue : Dialogue Place} {traffic : Traffic Place}
  {log : List (Remark Place)} {place : Place}

/-! ## Reporting -/

theorem Traffic.Orderly.delivers (orderly : traffic.Orderly owner) {job : Job}
    (owned : owner job.number = some place) :
    (.calling job ∈ traffic.pool.workers → traffic.HasRoom owner job) ∧
    ∀ outcome, Worker.reporting job outcome ∉ traffic.pool.workers := by
  refine ⟨fun calling => ?_, fun outcome reporting => ?_⟩
  · rcases List.getElem?_of_mem calling with ⟨index, found⟩
    exact orderly.hasRoom
      (Pool.ticket_mem_of_worker found (Multiset.mem_singleton_self _))
  · have foreign : owner job.number = none := orderly.unblocked job outcome reporting
    rw [owned] at foreign
    cases foreign

/-! ## Going on -/

namespace Dialogue

/-- A submission, a worker or a call can do something. It takes no reader, and the pool need
not be stopped. -/
def GoesOn (owner : Nat → Option Place) (gateway : Gateway) (dialogue : Dialogue Place) : Prop :=
  ∃ remarks after, Step owner gateway dialogue remarks after ∧
    after.traffic.pool.stopped = dialogue.traffic.pool.stopped ∧
    ∀ reader report, .read reader report ∉ remarks

theorem goesOn_of_calling {index : Nat} {job : Job}
    (calling : dialogue.traffic.pool.calling? index = some job)
    (free : dialogue.traffic.HasRoom owner job) : dialogue.GoesOn owner gateway := by
  cases left : dialogue.rest index with
  | ask request next =>
      refine ⟨_, _, .ask calling left .unreachable, rfl, fun reader report noted => ?_⟩
      cases List.mem_singleton.mp noted
  | pause seconds next =>
      exact ⟨_, _, .pause calling left, rfl, fun _ _ => List.not_mem_nil⟩
  | done outcome =>
      have found := Pool.calling?_eq_some.mp calling
      rcases Pool.exists_report? found outcome with ⟨report, pool, reported⟩
      refine ⟨_, _, .report calling left free reported, ?_, fun _ _ => List.not_mem_nil⟩
      rcases Pool.report?_some found reported with ⟨_, rfl⟩
      rw [Traffic.postAll_pool]

theorem goesOn_of_same_calls {next : Traffic Place}
    (move : Move owner gateway dialogue.traffic next)
    (calls : next.pool.calling? = dialogue.traffic.pool.calling?)
    (still : next.pool.stopped = dialogue.traffic.pool.stopped) :
    dialogue.GoesOn owner gateway :=
  ⟨_, _, .move move calls, still, fun _ _ => List.not_mem_nil⟩

section

variable (orderly : dialogue.traffic.Orderly owner)
  (started : dialogue.traffic.pool.started = true)
  (going : dialogue.traffic.pool.stopped = false)

include orderly started going

theorem goesOn_of_turn {reports : List JobReport} {pool : Pool}
    (turn : Pool.Turn (fun job => gateway.call job.command job.target)
      (dialogue.traffic.HasRoom owner) dialogue.traffic.pool reports pool) :
    dialogue.GoesOn owner gateway := by
  cases turn with
  | start fresh =>
      rw [started] at fresh
      cases fresh
  | skip taken =>
      rcases Pool.take?_skipped taken with ⟨_, _, _, _, _, rfl⟩
      refine goesOn_of_same_calls (.turn (.skip taken)) ?_ ?_ <;> rw [Traffic.postAll_pool]
      rfl
  | call taken =>
      refine ⟨_, _, .call taken, ?_, fun _ _ => List.not_mem_nil⟩
      rcases Pool.take?_called taken with ⟨_, _, _, _, _, _, rfl⟩
      rfl
  | report calling ends free reported =>
      exact goesOn_of_calling (Pool.calling?_eq_some.mpr calling) free
  | block calling ends full blocked =>
      -- This is where a circle would close: a worker that waits for its caller to read.
      have inside := Pool.ticket_mem_of_worker calling (Multiset.mem_singleton_self _)
      exact absurd (orderly.hasRoom inside) full
  | unblock reporting free reported =>
      rcases Pool.unblock?_some reporting reported with ⟨_, rfl⟩
      refine goesOn_of_same_calls (.turn (.unblock reporting free reported)) ?_ ?_ <;>
        rw [Traffic.postAll_pool]
      exact Pool.calling?_release reporting rfl
  | abort aborted =>
      rcases Pool.abort?_some aborted with ⟨_, _, _, stopped, _, _⟩
      rw [going] at stopped
      cases stopped
  | close closed =>
      have stopped := (Pool.close?_some closed).1
      rw [going] at stopped
      cases stopped
  | discard discarded =>
      rcases Pool.discard?_some discarded with ⟨_, _, _, closed, _, _⟩
      rw [orderly.sound.openUntilStopped going] at closed
      cases closed

theorem goesOn_of_move {next : Traffic Place}
    (move : Move owner gateway dialogue.traffic next) : dialogue.GoesOn owner gateway := by
  rcases move.pool_cases with ⟨queue, waiting, kept, same, _⟩ | ⟨_, turn⟩
  · refine goesOn_of_same_calls move ?_ ?_ <;> rw [same]
    rfl
  · exact goesOn_of_turn orderly started going turn

theorem goesOn_of_not_idles (busy : ¬Idles owner gateway dialogue.traffic) :
    dialogue.GoesOn owner gateway := by
  rw [Idles, not_forall_not] at busy
  rcases busy with ⟨next, move⟩
  exact goesOn_of_move orderly started going move

end

end Dialogue

theorem Idles.length_reports {start : Traffic Place}
    (idles : Idles owner gateway traffic) (opens : Opens owner requests start)
    (reaches : Reaches owner gateway start traffic) (place : Place) :
    (traffic.callers place).reports.length = (start.callers place).ahead.length := by
  have ledger := congrArg Multiset.card (idles.ledger_eq (opens.orderly.reaches reaches) place)
  rw [reaches.ledger_eq_jobs opens, Multiset.coe_card, Multiset.coe_card, List.length_map,
    List.length_map] at ledger
  exact ledger.symm

theorem Idles.exists_read {start : Traffic Place}
    (idles : Idles owner gateway traffic) (opens : Opens owner requests start)
    (reaches : Reaches owner gateway start traffic)
    (unreturned : ¬traffic.HasReturned owner place) :
    ∃ report after, Read owner traffic after ∧
      (after.callers place).received = (traffic.callers place).received ++ [report] := by
  have orderly := opens.orderly.reaches reaches
  have submitted := idles.submitted orderly place
  have patient := orderly.patient place
  have wanted : (traffic.callers place).received.length < (traffic.callers place).count :=
    Nat.lt_of_le_of_ne patient fun collected => unreturned ⟨submitted, collected⟩
  have reported := idles.length_reports opens reaches place
  have counted := reaches.count_add_refused opens submitted
  rw [Caller.reports, List.length_append] at reported
  cases arrived : (traffic.callers place).held with
  | nil =>
      rw [arrived, List.length_nil] at reported
      omega
  | cons report rest =>
      refine ⟨report, _, .receive submitted wanted arrived, ?_⟩
      rw [Traffic.setCaller_callers, if_pos rfl]

/-- A caller that has jobs left to submit, or jobs that have not been reported, is never
stuck: a submission, a worker or a call can do something, without any report being read. A
caller that has not returned can go on or read. Workers never wait with a report. -/
theorem unfinished_request_is_never_stuck (opens : Opens owner requests opening.traffic)
    (coherent : opening.Coherent gateway)
    (reaches : Dialogue.Reaches owner gateway opening log dialogue)
    (started : dialogue.traffic.pool.started = true)
    (going : dialogue.traffic.pool.stopped = false) (place : Place) :
    let caller := dialogue.traffic.callers place
    let jobs := (opening.traffic.callers place).ahead
    (∀ job, owner job.number = some place →
      (.calling job ∈ dialogue.traffic.pool.workers → dialogue.traffic.HasRoom owner job) ∧
      ∀ outcome, Worker.reporting job outcome ∉ dialogue.traffic.pool.workers) ∧
    (¬dialogue.traffic.HasSubmitted owner place ∨ caller.reports.length < jobs.length →
      dialogue.GoesOn owner gateway) ∧
    (¬dialogue.traffic.HasReturned owner place →
      dialogue.GoesOn owner gateway ∨
      ∃ report after, Dialogue.Step owner gateway dialogue [.read place report] after) := by
  have reached := reaches.traffic coherent
  have orderly := opens.orderly.reaches reached
  refine ⟨fun job owned => orderly.delivers owned, fun unfinished => ?_, fun unreturned => ?_⟩
  · refine Dialogue.goesOn_of_not_idles orderly started going fun idles => ?_
    rcases unfinished with unsubmitted | unreported
    · exact unsubmitted (idles.submitted orderly place)
    · rw [idles.length_reports opens reached place] at unreported
      exact Nat.lt_irrefl _ unreported
  · by_cases idles : Idles owner gateway dialogue.traffic
    · rcases idles.exists_read opens reached unreturned with ⟨report, _, read, told⟩
      exact Or.inr ⟨report, _, .read read told⟩
    · exact Or.inl (Dialogue.goesOn_of_not_idles orderly started going idles)

/-- One caller has filled the queue of a pool whose only worker is calling, and another waits
for room. The call goes on. -/
theorem full_pool_goes_on :
    ∃ (opening dialogue : Dialogue Bool) (log : List (Remark Bool)),
      Dialogue.Reaches (fun number => some (decide (2 ≤ number))) default opening log dialogue ∧
      dialogue.traffic.pool.queue.length = dialogue.traffic.pool.capacity ∧
      dialogue.traffic.Awaits (fun number => some (decide (2 ≤ number))) true ∧
      dialogue.GoesOn (fun number => some (decide (2 ≤ number))) default := by
  let owner (number : Nat) : Option Bool := some (decide (2 ≤ number))
  let request : Request := .same .readState [{ xname := "x0" }, { xname := "x1" }]
  let jobs (second : Bool) : List Job :=
    [⟨cond second 2 0, .readState, { xname := "x0" }, {}⟩,
      ⟨cond second 3 1, .readState, { xname := "x1" }, {}⟩]
  let traffic : Traffic Bool :=
    ⟨(Pool.create 1 1).start, fun second => .opened request (jobs second)⟩
  have opens : Opens owner (fun _ => request) traffic := by
    refine ⟨Pool.sound_start (Pool.sound_create 1 1), ?_, fun second => ?_⟩
    · intro ticket member
      exact absurd member (Multiset.notMem_zero ticket)
    · refine ⟨jobs second, ⟨rfl, ?_, ?_⟩, ?_, rfl⟩ <;> cases second <;> decide
  have nobody {pool : Pool} {callers : Bool → Caller} {second : Bool} (empty : pool.waiting = []) :
      ¬Traffic.Awaits owner ⟨pool, callers⟩ second := by
    rintro ⟨job, member, _⟩
    rw [empty] at member
    cases member
  have reaches : Dialogue.Reaches owner default ⟨traffic, fun _ => .done default⟩ [] _ := .refl
  replace reaches := reaches.tail
    (.move (@Move.prepare Bool _ _ _ _ false _ _ rfl rfl (nobody rfl) rfl) rfl)
  replace reaches := reaches.tail (.move (@Move.accept Bool _ _ _ _ false _ _ rfl rfl) rfl)
  replace reaches := reaches.tail (@Dialogue.Step.call Bool _ _ _ _ 0 _ _ rfl)
  replace reaches := reaches.tail
    (.move (@Move.prepare Bool _ _ _ _ false _ _ rfl rfl (nobody rfl) rfl) rfl)
  replace reaches := reaches.tail (.move (@Move.accept Bool _ _ _ _ false _ _ rfl rfl) rfl)
  replace reaches := reaches.tail
    (.move (@Move.prepare Bool _ _ _ _ true _ _ rfl rfl (nobody rfl) rfl) rfl)
  replace reaches := reaches.tail (.move (@Move.await Bool _ _ _ _ true _ _ rfl rfl) rfl)
  have coherent : Dialogue.Coherent default ⟨traffic, fun _ => .done default⟩ := by
    intro index job calling
    have idle : (Pool.create 1 1).start.calling? index = none := by cases index <;> rfl
    rw [idle] at calling
    cases calling
  have awaits : ∃ job ∈ [(⟨2, .readState, { xname := "x0" }, ⟨.queued, none⟩⟩ : Job)],
      owner job.number = some true := ⟨_, List.mem_singleton_self _, rfl⟩
  rcases unfinished_request_is_never_stuck opens coherent reaches rfl rfl true with
    ⟨_, goesOn, _⟩
  exact ⟨_, _, _, reaches, rfl, awaits,
    goesOn (Or.inl fun submitted => submitted.entered awaits)⟩

end FanOut

end ClusterPower
