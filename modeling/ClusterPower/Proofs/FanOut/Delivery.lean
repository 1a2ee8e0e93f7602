import ClusterPower.Proofs.FanOut.Rest
import ClusterPower.Proofs.FanOut.Run
import Mathlib.Data.Fintype.Basic

/-!
What a caller is told. Whatever the order of the steps, each of its jobs is reported
once: by the worker that carried it out, or by giving it up. What it waits for is
another matter, since a job that the pool refused is reported, but not counted.
-/

namespace ClusterPower.FanOut

variable {Place : Type} [DecidableEq Place] {owner : Nat → Option Place}
  {gateway : Gateway} {requests : Place → Request} {opening traffic : Traffic Place}
  {place : Place}

/-! ## Reports and jobs -/

theorem Caller.reports_le (caller : Caller) :
    (caller.reports.map JobReport.ticket : Multiset Ticket) ≤ caller.tickets := by
  have split : caller.tickets = ↑(caller.reports.map JobReport.ticket) +
      (↑(caller.ahead.map Job.ticket) + ↑(caller.hand.toList.map Job.ticket) +
        ↑(caller.lost.map JobReport.ticket)) := by
    rw [tickets, reports, List.map_append, ← Multiset.coe_add]
    abel
  rw [split]
  exact Multiset.le_add_right _ _

namespace Reaches

variable (reaches : Reaches owner gateway opening traffic) (opens : Opens owner requests opening)

include reaches opens

theorem ledger_eq_jobs (place : Place) :
    traffic.ledger owner place = ↑((opening.callers place).ahead.map Job.ticket) := by
  rw [reaches.ledger_eq opens.orderly, opens.ledger_eq]

theorem reports_le_jobs (place : Place) :
    ((traffic.callers place).reports.map JobReport.ticket : Multiset Ticket) ≤
      ↑((opening.callers place).ahead.map Job.ticket) := by
  rw [← reaches.ledger_eq_jobs opens]
  exact (Caller.reports_le _).trans (Multiset.le_add_right _ _)

theorem reports_nodup (place : Place) :
    ((traffic.callers place).reports.map (·.job.number)).Nodup := by
  rcases opens.opened place with ⟨jobs, makes, _, caller⟩
  have sub := Multiset.map_le_map (f := Ticket.number) (reaches.reports_le_jobs opens place)
  rw [caller, Multiset.map_coe, Multiset.map_coe, List.map_map, List.map_map] at sub
  exact Multiset.coe_nodup.mp (Multiset.nodup_of_le sub (Multiset.coe_nodup.mpr makes.distinct))

end Reaches

/-! ## A caller on its own -/

theorem Request.makes_numbered (request : Request) :
    request.Makes (numbered request.calls) where
  calls := calls_numbered _
  fresh _ member := state_of_mem_numbered member
  distinct := by
    rw [numbers_numbered]
    exact List.nodup_range

def Traffic.alone (pool : Pool) (request : Request) : Traffic Unit where
  pool
  callers _ := .opened request (numbered request.calls)

theorem opens_alone {pool : Pool} (sound : pool.Sound) (empty : pool.tickets = 0)
    (request : Request) :
    Opens (fun _ => some ()) (fun _ => request) (Traffic.alone pool request) where
  sound
  others ticket member := by
    rw [Traffic.alone, empty] at member
    exact absurd member (Multiset.notMem_zero ticket)
  opened _ := ⟨_, request.makes_numbered, fun _ _ => rfl, rfl⟩

/-! ## Every job is reported -/

/-- Each job is reported at most once, under its own target, and no report is ever lost.
Where submissions and workers have nothing left to do, which every run comes to, each
job has been reported. Unless the pool is stopped, all jobs are counted, and where a run
has ended a caller has read as many reports as it has counted. -/
theorem every_job_reports_exactly_once [Fintype Place] (gateway : Gateway)
    (opens : Opens owner requests opening) :
    Ends owner gateway opening ∧
    ∀ traffic, Reaches owner gateway opening traffic → ∀ place,
      let jobs := (opening.callers place).ahead
      let caller := traffic.callers place
      (requests place).Makes jobs ∧
      (caller.reports.map (·.job.number)).Nodup ∧
      (∀ report ∈ caller.reports, report.ticket ∈ jobs.map Job.ticket) ∧
      caller.lost = [] ∧
      (Idles owner gateway traffic →
        (caller.reports.map JobReport.ticket).Perm (jobs.map Job.ticket)) ∧
      (traffic.pool.stopped = false → traffic.HasSubmitted owner place →
        caller.count = jobs.length) ∧
      (Rests owner gateway traffic → traffic.HasReturned owner place) := by
  refine ⟨opens.orderly.ends, fun traffic reaches place => ?_⟩
  have orderly := opens.orderly.reaches reaches
  refine ⟨?_, reaches.reports_nodup opens place, ?_, orderly.nothingLost place, ?_, ?_,
    fun rests => rests.returned opens reaches place⟩
  · rcases opens.opened place with ⟨jobs, makes, _, caller⟩
    rw [caller]
    exact makes
  · intro report member
    have listed := Multiset.mem_coe.mpr (List.mem_map_of_mem member (f := JobReport.ticket))
    exact Multiset.mem_coe.mp (Multiset.mem_of_le (reaches.reports_le_jobs opens place) listed)
  · intro idles
    have ledger := reaches.ledger_eq_jobs opens place
    rw [idles.ledger_eq orderly] at ledger
    exact Multiset.coe_eq_coe.mp ledger
  · intro going submitted
    have counted := reaches.count_add_refused opens submitted
    rwa [orderly.willing going place] at counted

theorem one_job_reports_exactly_once :
    Opens (fun _ => some ()) (fun _ => .same .readState [{ xname := "x0" }])
      (Traffic.alone (Pool.create 1 1) (.same .readState [{ xname := "x0" }])) ∧
    ∃ traffic, Reaches (fun _ => some ()) default
        (Traffic.alone (Pool.create 1 1) (.same .readState [{ xname := "x0" }])) traffic ∧
      Rests (fun _ => some ()) default traffic ∧
      (traffic.callers ()).reports.map JobReport.ticket =
        [⟨0, .readState, { xname := "x0" }⟩] := by
  have opens := opens_alone (Pool.sound_create 1 1) rfl (.same .readState [{ xname := "x0" }])
  have all := every_job_reports_exactly_once default opens
  rcases all.1.exists_rests with ⟨traffic, reaches, rests⟩
  rcases all.2 traffic reaches () with ⟨_, _, _, _, reported, _, _⟩
  exact ⟨opens, traffic, reaches, rests, List.perm_singleton.mp (reported rests.idles)⟩

/-! ## What callers wait for -/

namespace Reaches

variable (reaches : Reaches owner gateway opening traffic) (opens : Opens owner requests opening)
  (returned : traffic.HasReturned owner place)

include reaches opens returned

theorem received_add_refused :
    (traffic.callers place).received.length + (traffic.callers place).refused.length =
      (opening.callers place).ahead.length := by
  rw [returned.collected]
  exact reaches.count_add_refused opens returned.submitted

theorem received_perm (none : (traffic.callers place).refused = []) :
    ((traffic.callers place).received.map JobReport.ticket).Perm
      ((opening.callers place).ahead.map Job.ticket) := by
  have length := reaches.received_add_refused opens returned
  rw [none, List.length_nil, Nat.add_zero] at length
  have part := reaches.reports_le_jobs opens place
  rw [Caller.reports, List.map_append, ← Multiset.coe_add] at part
  exact Multiset.coe_eq_coe.mp
    (Multiset.eq_of_le_of_card_le ((Multiset.le_add_right _ _).trans part) (by simp [length]))

end Reaches

/-- A caller that has returned is short of its refused jobs. So it has one outcome for
each of its targets exactly if none of its jobs was refused, which is so unless the pool
has been stopped. -/
theorem returned_all_iff_none_refused (opens : Opens owner requests opening)
    (reaches : Reaches owner gateway opening traffic)
    (returned : traffic.HasReturned owner place) :
    let caller := traffic.callers place
    let targets := (requests place).calls.map Prod.fst
    caller.received.length + caller.refused.length = targets.length ∧
    ((caller.received.map (·.outcome.target)).Perm targets ↔ caller.refused = []) ∧
    (traffic.pool.stopped = false → caller.refused = []) := by
  have length := reaches.received_add_refused opens returned
  have targetsEq : (requests place).calls.map Prod.fst =
      (opening.callers place).ahead.map (·.target) := by
    rcases opens.opened place with ⟨jobs, makes, _, caller⟩
    rw [← makes.calls, List.map_map, caller]
    rfl
  have counted : (traffic.callers place).received.length +
      (traffic.callers place).refused.length =
        ((requests place).calls.map Prod.fst).length := by
    rw [targetsEq, List.length_map, length]
  refine ⟨counted, ⟨fun perm => ?_, fun none => ?_⟩,
    fun going => (opens.orderly.reaches reaches).willing going place⟩
  · have same := perm.length_eq
    rw [List.length_map] at same
    exact List.length_eq_zero_iff.mp (by omega)
  · have tickets := (reaches.received_perm opens returned none).map Ticket.target
    rw [List.map_map, List.map_map] at tickets
    rw [targetsEq]
    exact tickets

theorem one_job_returned_iff_not_refused :
    ∃ traffic, Reaches (fun _ => some ()) default
        (Traffic.alone (Pool.create 1 1) (.same .readState [{ xname := "x0" }])) traffic ∧
      traffic.HasReturned (fun _ => some ()) () ∧
      ((traffic.callers ()).received.length + (traffic.callers ()).refused.length = 1) := by
  have opens := opens_alone (Pool.sound_create 1 1) rfl (.same .readState [{ xname := "x0" }])
  rcases (opens.orderly.ends : Ends _ default _).exists_rests with ⟨traffic, reaches, rests⟩
  have returned := rests.returned opens reaches ()
  exact ⟨traffic, reaches, returned, (returned_all_iff_none_refused opens reaches returned).1⟩

/-- At a stopped pool a caller waits for nothing. Where the pool is stopped between two
jobs, the one that was refused takes the place of the other. -/
theorem refused_jobs_are_not_waited_for :
    run default (Pool.create 1 4).start.stop (callsOf .readState [{ xname := "x0" }]) =
      .done [] ∧
    ∃ traffic, Reaches (fun _ => some ()) default
        (Traffic.alone (Pool.create 1 4)
          (.same .readState [{ xname := "x0" }, { xname := "x1" }])) traffic ∧
      traffic.HasReturned (fun _ => some ()) () ∧
      (traffic.callers ()).refused.map (·.number) = [1] ∧
      (traffic.callers ()).received.map (·.job.number) = [1] := by
  refine ⟨rfl, ?_⟩
  have reaches : Reaches (fun _ => some ()) default
    (Traffic.alone (Pool.create 1 4) (.same .readState [{ xname := "x0" }, { xname := "x1" }]))
    _ := .refl
  have nobody {pool : Pool} {callers : Unit → Caller} (empty : pool.waiting = []) :
      ¬Traffic.Awaits (fun _ => some ()) ⟨pool, callers⟩ () := by
    rintro ⟨job, member, _⟩
    rw [empty] at member
    cases member
  replace reaches := reaches.tail (.move (.prepare rfl rfl (nobody rfl) rfl))
  replace reaches := reaches.tail (.move (@Move.accept Unit _ _ _ _ () _ _ rfl rfl))
  replace reaches := reaches.tail (.stop rfl)
  replace reaches := reaches.tail (.move (.refuse rfl rfl (nobody rfl) rfl))
  replace reaches := reaches.tail (.read (.receive ⟨rfl, rfl, nobody rfl⟩ (by decide) rfl))
  exact ⟨_, reaches, ⟨⟨rfl, rfl, nobody rfl⟩, rfl⟩, rfl, rfl⟩

end ClusterPower.FanOut
