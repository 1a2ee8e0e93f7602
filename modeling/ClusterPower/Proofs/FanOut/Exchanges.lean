import ClusterPower.Proofs.FanOut.Dialogue
import ClusterPower.Proofs.Replies

/-!
What each call has asked. Jobs are told apart by number: the requests under the number of a job
are those of its call. There are none before it begins, then what it has asked so far, and in the
end what it has come to its outcome by.
-/

namespace ClusterPower.FanOut

open Conversation

variable {Place : Type} [DecidableEq Place] {owner : Nat → Option Place} {gateway : Gateway}
  {place : Place}

/-! ## Exchanges -/

def Remark.exchange? (number : Nat) : Remark Place → Option Exchange
  | .asked job request answer => if job.number = number then some (request, answer) else none
  | .read _ _ => none

def exchangesOf (number : Nat) (log : List (Remark Place)) : List Exchange :=
  log.filterMap (Remark.exchange? number)

/-! ## Jobs of a caller are told apart -/

namespace Traffic

/-- No two jobs of a caller have the same number, and all of them are its own. -/
structure Distinct (owner : Nat → Option Place) (place : Place) (traffic : Traffic Place) :
    Prop where
  numbers : ((traffic.ledger owner place).map (·.number)).Nodup
  owned : ∀ ticket ∈ traffic.ledger owner place, owner ticket.number = some place

variable {traffic : Traffic Place}

omit [DecidableEq Place] in
theorem numbers_of_nodup_add {left right : Multiset Ticket}
    (distinct : ((left + right).map (·.number)).Nodup) {ticket other : Ticket}
    (here : ticket ∈ left) (there : other ∈ right) : ticket.number ≠ other.number := by
  rw [Multiset.map_add, Multiset.nodup_add] at distinct
  intro same
  apply Multiset.disjoint_left.mp distinct.2.2 (Multiset.mem_map_of_mem _ here)
  rw [same]
  exact Multiset.mem_map_of_mem _ there

theorem Distinct.report_ne (distinct : traffic.Distinct owner place) {report : JobReport}
    (reported : report ∈ (traffic.callers place).reports) {ticket : Ticket}
    (inPool : ticket ∈ traffic.pool.tickets) : report.job.number ≠ ticket.number := by
  have listed : report.ticket ∈ (traffic.callers place).tickets :=
    Multiset.mem_of_le (Caller.reports_le _)
      (Multiset.mem_coe.mpr (List.mem_map_of_mem reported))
  intro same
  have owned := distinct.owned _ (Multiset.mem_add.mpr (Or.inl listed))
  exact numbers_of_nodup_add distinct.numbers listed
    (Multiset.mem_filter.mpr ⟨inPool, same ▸ owned⟩) same

theorem Distinct.ticket_ne (distinct : traffic.Distinct owner place) {ticket other : Ticket}
    {rest : Multiset Ticket} (split : traffic.pool.tickets = rest + {ticket})
    (owned : owner ticket.number = some place) (member : other ∈ rest) :
    other.number ≠ ticket.number := by
  intro same
  have numbers := distinct.numbers
  rw [ledger, split, Multiset.filter_add, ← add_assoc] at numbers
  refine numbers_of_nodup_add numbers ?_ ?_ same
  · exact Multiset.mem_add.mpr (Or.inr (Multiset.mem_filter.mpr ⟨member, same ▸ owned⟩))
  · exact Multiset.mem_filter.mpr ⟨Multiset.mem_singleton_self _, owned⟩

end Traffic

/-! ## Steps outside of calls -/

variable {traffic afterwards : Traffic Place}

/-- A turn by which no call ends reports nothing of a caller's own. -/
theorem reports_of_calling_eq {reports : List JobReport} {pool : Pool}
    (turn : Pool.Turn (fun job => gateway.call job.command job.target) (traffic.HasRoom owner)
      traffic.pool reports pool)
    (calls : pool.calling? = traffic.pool.calling?) (orderly : traffic.Orderly owner)
    (faithful : traffic.Faithful owner gateway) (going : traffic.pool.stopped = false)
    (place : Place) :
    reports.filter (fun report => owner report.job.number = some place) = [] := by
  rw [List.filter_eq_nil_iff]
  intro report member owned
  rw [decide_eq_true_iff] at owned
  cases turn with
  | start | call | block | close => cases member
  | skip taken =>
      rcases Pool.take?_skipped taken with ⟨job, rest, queued, cancelled, rfl, _⟩
      rw [List.mem_singleton.mp member] at owned
      have inQueue : job ∈ traffic.pool.queue ++ traffic.pool.waiting := by
        rw [queued]
        exact List.mem_append_left _ List.mem_cons_self
      have concerned : owner job.number ≠ none := by
        intro nobody
        exact Option.some_ne_none place (owned.symm.trans nobody)
      exact faithful.inside job inQueue concerned cancelled
  | @report index job outcome _ _ calling ends free reported =>
      rcases Pool.report?_some calling reported with ⟨_, rfl⟩
      have before := Pool.calling?_eq_some.mpr calling
      rw [← calls, Pool.calling?_eq_some] at before
      simp [List.getElem?_set] at before
  | unblock reporting free reported =>
      rcases Pool.unblock?_some reporting reported with ⟨rfl, _⟩
      rw [List.mem_singleton.mp member] at owned
      rw [orderly.unblocked _ _ (List.mem_of_getElem? reporting)] at owned
      cases owned
  | abort aborted =>
      rcases Pool.abort?_some aborted with ⟨_, _, _, stopped, _⟩
      rw [going] at stopped
      cases stopped
  | discard discarded =>
      rcases Pool.discard?_some discarded with ⟨_, _, _, closed, _⟩
      rw [orderly.sound.openUntilStopped going] at closed
      cases closed

theorem Move.reports_eq (move : Move owner gateway traffic afterwards)
    (calls : afterwards.pool.calling? = traffic.pool.calling?)
    (orderly : traffic.Orderly owner) (faithful : traffic.Faithful owner gateway)
    (going : traffic.pool.stopped = false) (place : Place) :
    (afterwards.callers place).reports = (traffic.callers place).reports := by
  cases move with
  | refuse next free entered stopped =>
      rw [going] at stopped
      cases stopped
  | prepare | accept | await => exact Traffic.reports_setCaller (by rfl) place
  | bounce hand sent =>
      have stopped := stopped_of_closed orderly.sound (Pool.send_refused sent).1
      rw [going] at stopped
      cases stopped
  | dismiss dismissed =>
      have stopped := stopped_of_closed orderly.sound (Pool.dismiss?_some dismissed).2.1
      rw [going] at stopped
      cases stopped
  | enter entered =>
      rw [Traffic.tell_callers]
      split
      · rfl
      · rfl
  | turn turn =>
      rw [Traffic.postAll_pool] at calls
      rw [Traffic.postAll_callers,
        reports_of_calling_eq turn calls orderly faithful going place]
      rfl

/-! ## What the log says of each call -/

namespace Dialogue

variable {opening dialogue after : Dialogue Place} {remarks log : List (Remark Place)}

/-- What has been asked under a number is what the call of that job has asked. -/
structure Follows (owner : Nat → Option Place) (gateway : Gateway) (place : Place)
    (dialogue : Dialogue Place) (log : List (Remark Place)) : Prop where
  calling : ∀ index job, dialogue.traffic.pool.calling? index = some job →
    owner job.number = some place →
    (gateway.call job.command job.target).Leads (exchangesOf job.number log)
      (dialogue.rest index)
  reported : ∀ report ∈ (dialogue.traffic.callers place).reports,
    (gateway.call report.job.command report.outcome.target).Leads
      (exchangesOf report.job.number log) (.done report.outcome)
  begun : ∀ number, owner number = some place → exchangesOf number log ≠ [] →
    (∃ index job, dialogue.traffic.pool.calling? index = some job ∧ job.number = number) ∨
    ∃ report ∈ (dialogue.traffic.callers place).reports, report.job.number = number

omit [DecidableEq Place] in
theorem Follows.congr {later : Dialogue Place} (follows : Follows owner gateway place dialogue log)
    (calls : later.traffic.pool.calling? = dialogue.traffic.pool.calling?)
    (rest : later.rest = dialogue.rest)
    (reports : (later.traffic.callers place).reports =
      (dialogue.traffic.callers place).reports) :
    Follows owner gateway place later log where
  calling := by
    rw [calls, rest]
    exact follows.calling
  reported := by
    rw [reports]
    exact follows.reported
  begun := by
    rw [calls, reports]
    exact follows.begun

section Steps

variable {index : Nat} {job : Job}

theorem calling_ne (distinct : dialogue.traffic.Distinct owner place) {other : Nat}
    {otherJob : Job} (calling : dialogue.traffic.pool.calling? index = some job)
    (owned : owner job.number = some place)
    (otherCalling : dialogue.traffic.pool.calling? other = some otherJob)
    (different : other ≠ index) : otherJob.number ≠ job.number := by
  let pool := dialogue.traffic.pool
  have found := Pool.calling?_eq_some.mp calling
  have emptied := pool.tickets_setWorker .idle pool.running found
  simp only [Worker.tickets, add_zero] at emptied
  have stays : (pool.workers.set index .idle)[other]? = some (.calling otherJob) := by
    rw [List.getElem?_set_ne (Ne.symm different)]
    exact Pool.calling?_eq_some.mp otherCalling
  have member := @Pool.ticket_mem_of_worker { pool with workers := pool.workers.set index .idle }
    _ _ _ stays (Multiset.mem_singleton_self otherJob.ticket)
  exact distinct.ticket_ne emptied.symm owned member

theorem Follows.unasked (follows : Follows owner gateway place dialogue log)
    (distinct : dialogue.traffic.Distinct owner place) {rest : List Job}
    (queued : dialogue.traffic.pool.queue = job :: rest) (owned : owner job.number = some place) :
    exchangesOf job.number log = [] := by
  by_contra asked
  have split := Pool.tickets_dequeue queued
  rcases follows.begun _ owned asked with ⟨index, other, calling, same⟩ | ⟨report, reported, same⟩
  · have member := @Pool.ticket_mem_of_worker { dialogue.traffic.pool with queue := rest } _ _ _
      (Pool.calling?_eq_some.mp calling) (Multiset.mem_singleton_self other.ticket)
    exact distinct.ticket_ne split owned member same
  · have inPool : job.ticket ∈ dialogue.traffic.pool.tickets := by
      rw [split]
      exact Multiset.mem_add.mpr (Or.inr (Multiset.mem_singleton_self _))
    exact distinct.report_ne reported inPool same

theorem Follows.call (follows : Follows owner gateway place dialogue log)
    (distinct : dialogue.traffic.Distinct owner place) {pool : Pool}
    (taken : dialogue.traffic.pool.take? index = some (.called job, pool)) :
    Follows owner gateway place {
      traffic := { dialogue.traffic with pool }
      rest := Function.update dialogue.rest index (gateway.call job.command job.target) } log := by
  rcases Pool.take?_called taken with ⟨queued, rest, idle, inQueue, _, rfl, rfl⟩
  refine ⟨fun other called calling owned => ?_, follows.reported,
    fun number owned asked => ?_⟩
  · dsimp only
    rcases (Pool.calling?_of_set rfl calling :
        _ ∨ _ ∧ dialogue.traffic.pool.calling? other = some called) with
      ⟨rfl, same⟩ | ⟨different, before⟩
    · cases same
      rw [Function.update_self, follows.unasked distinct inQueue owned]
      exact .begin
    · rw [Function.update_of_ne different]
      exact follows.calling other called before owned
  · rcases follows.begun number owned asked with ⟨other, called, calling, same⟩ | reported
    · refine Or.inl ⟨other, called, ?_, same⟩
      rw [Pool.calling?_eq_some] at calling ⊢
      have different : index ≠ other := by
        rintro rfl
        rw [idle] at calling
        cases calling
      exact (List.getElem?_set_ne different).trans calling
    · exact Or.inr reported

omit [DecidableEq Place] in
theorem exchangesOf_asked (number : Nat) (request : Http.Request) (answer : Http.Answer) :
    exchangesOf number (log ++ [.asked job request answer]) =
      exchangesOf number log ++ if job.number = number then [(request, answer)] else [] := by
  unfold exchangesOf
  rw [List.filterMap_append]
  by_cases concerned : job.number = number <;> simp [Remark.exchange?, concerned]

theorem Follows.ask (follows : Follows owner gateway place dialogue log)
    (distinct : dialogue.traffic.Distinct owner place) {request : Http.Request}
    {next : Http.Answer → Conversation Outcome}
    (calling : dialogue.traffic.pool.calling? index = some job)
    (left : dialogue.rest index = .ask request next) (answer : Http.Answer) :
    Follows owner gateway place
      { dialogue with rest := Function.update dialogue.rest index (next answer) }
      (log ++ [.asked job request answer]) where
  calling other called otherCalling owned := by
    rw [exchangesOf_asked]
    dsimp only
    by_cases same : other = index
    · rw [same] at otherCalling ⊢
      cases calling.symm.trans otherCalling
      have leads := follows.calling index job calling owned
      rw [left] at leads
      rw [Function.update_self, if_pos rfl]
      exact leads.ask answer
    · rw [Function.update_of_ne same, if_neg, List.append_nil]
      · exact follows.calling other called otherCalling owned
      · intro concerned
        rw [← concerned] at owned
        exact calling_ne distinct calling owned otherCalling same concerned.symm
  reported report member := by
    rw [exchangesOf_asked, if_neg, List.append_nil]
    · exact follows.reported report member
    · intro concerned
      have inPool := Pool.ticket_mem_of_worker (Pool.calling?_eq_some.mp calling)
        (Multiset.mem_singleton_self job.ticket)
      exact distinct.report_ne member inPool concerned.symm
  begun number owned asked := by
    rw [exchangesOf_asked] at asked
    by_cases concerned : job.number = number
    · exact Or.inl ⟨index, job, calling, concerned⟩
    · rw [if_neg concerned, List.append_nil] at asked
      exact follows.begun number owned asked

omit [DecidableEq Place] in
theorem Follows.pause (follows : Follows owner gateway place dialogue log) {seconds : Nat}
    {next : Conversation Outcome} (left : dialogue.rest index = .pause seconds next) :
    Follows owner gateway place
      { dialogue with rest := Function.update dialogue.rest index next } log where
  calling other called calling owned := by
    have leads := follows.calling other called calling owned
    dsimp only
    by_cases same : other = index
    · rw [same, left] at leads
      rw [same, Function.update_self]
      exact leads.pause
    · rwa [Function.update_of_ne same]
  reported := follows.reported
  begun := follows.begun

theorem Follows.report (follows : Follows owner gateway place dialogue log) {outcome : Outcome}
    {later : Traffic Place} (calling : dialogue.traffic.pool.calling? index = some job)
    (ended : dialogue.rest index = .done outcome) (own : outcome.target = job.target)
    (changed : later.pool.workers = dialogue.traffic.pool.workers.set index .idle)
    (reports : (later.callers place).reports = (dialogue.traffic.callers place).reports ++
      if owner job.number = some place then [⟨job, outcome⟩] else []) :
    Follows owner gateway place { dialogue with traffic := later } log where
  calling other called otherCalling owned := by
    rcases Pool.calling?_of_set changed otherCalling with ⟨_, same⟩ | ⟨_, before⟩
    · cases same
    · exact follows.calling other called before owned
  reported report member := by
    rw [reports] at member
    rcases List.mem_append.mp member with before | arrived
    · exact follows.reported report before
    · split at arrived
      · next owned =>
        have leads := follows.calling index job calling owned
        rw [List.mem_singleton.mp arrived]
        rwa [ended, ← own] at leads
      · cases arrived
  begun number owned asked := by
    rw [reports]
    rcases follows.begun number owned asked with ⟨other, called, otherCalling, rfl⟩ |
      ⟨report, before, same⟩
    · by_cases same : other = index
      · rw [same] at otherCalling
        cases calling.symm.trans otherCalling
        refine Or.inr ⟨⟨job, outcome⟩, ?_, rfl⟩
        rw [if_pos owned]
        exact List.mem_append_right _ (List.mem_singleton_self _)
      · refine Or.inl ⟨other, called, ?_, rfl⟩
        rw [Pool.calling?_eq_some] at otherCalling ⊢
        rw [changed, List.getElem?_set_ne (Ne.symm same)]
        exact otherCalling
    · exact Or.inr ⟨report, List.mem_append_left _ before, same⟩

end Steps

/-! ## Every step -/

theorem reports_postAll {job : Job} (free : traffic.HasRoom owner job) (outcome : Outcome)
    (pool : Pool) :
    ((({ traffic with pool } : Traffic Place).postAll owner [⟨job, outcome⟩]).callers
        place).reports =
      (traffic.callers place).reports ++
        if owner job.number = some place then [⟨job, outcome⟩] else [] := by
  rw [Traffic.postAll_callers]
  by_cases owned : owner job.number = some place
  · rw [List.filter_cons_of_pos (by simpa using owned), if_pos owned]
    simp [Caller.post, Caller.reports, free place owned]
  · rw [List.filter_cons_of_neg (by simpa using owned), if_neg owned, List.append_nil]
    rfl

omit [DecidableEq Place] in
theorem exchangesOf_read (number : Nat) (reader : Place) (report : JobReport) :
    exchangesOf number (log ++ [.read reader report]) = exchangesOf number log := by
  unfold exchangesOf
  rw [List.filterMap_append]
  exact List.append_nil _

theorem Follows.read (follows : Follows owner gateway place dialogue log)
    {later : Traffic Place} (read : Read owner dialogue.traffic later) (reader : Place)
    (report : JobReport) :
    Follows owner gateway place { dialogue with traffic := later }
      (log ++ [.read reader report]) := by
  have same : ∀ number, exchangesOf number (log ++ [.read reader report]) =
      exchangesOf number log := fun number => exchangesOf_read number reader report
  have kept : Follows owner gateway place { dialogue with traffic := later } log := by
    cases read with
    | receive submitted wanted arrived =>
        apply follows.congr
        · rfl
        · rfl
        · exact Traffic.reports_setCaller (by simp [Caller.reports, arrived]) place
  refine ⟨?_, ?_, ?_⟩
  · simpa only [same] using kept.calling
  · simpa only [same] using kept.reported
  · simpa only [same] using kept.begun

theorem Step.follows (step : Step owner gateway dialogue remarks after)
    (coherent : dialogue.Coherent gateway) (orderly : dialogue.traffic.Orderly owner)
    (faithful : dialogue.traffic.Faithful owner gateway)
    (goesOn : after.traffic.pool.stopped = false)
    (distinct : dialogue.traffic.Distinct owner place)
    (follows : Follows owner gateway place dialogue log) :
    Follows owner gateway place after (log ++ remarks) := by
  have going : dialogue.traffic.pool.stopped = false := by
    rcases step.traffic coherent with same | step
    · rwa [← same]
    · exact step.going goesOn
  cases step with
  | move move calls =>
      rw [List.append_nil]
      exact follows.congr calls rfl (move.reports_eq calls orderly faithful going place)
  | stop _ => cases goesOn
  | read read told => exact follows.read read _ _
  | call taken =>
      rw [List.append_nil]
      exact follows.call distinct taken
  | ask calling left answer => exact follows.ask distinct calling left answer
  | pause calling left =>
      rw [List.append_nil]
      exact follows.pause left
  | @report index job outcome report pool calling ended free reported =>
      rw [List.append_nil]
      rcases Pool.report?_some (Pool.calling?_eq_some.mp calling) reported with ⟨rfl, rfl⟩
      have own := gateway.regards_call job.command job.target outcome
        (coherent index job calling outcome (by rw [ended]; rfl))
      apply follows.report calling ended own
      · rw [Traffic.postAll_pool]
      · exact reports_postAll free outcome _
  | @block index job outcome pool calling ended full blocked =>
      rw [List.append_nil]
      rcases Pool.block?_some (Pool.calling?_eq_some.mp calling) blocked with rfl
      have inPool := Pool.ticket_mem_of_worker (Pool.calling?_eq_some.mp calling)
        (Multiset.mem_singleton_self job.ticket)
      exact absurd (orderly.hasRoom inPool) full
  | abort aborted =>
      rcases Pool.abort?_some aborted with ⟨_, _, _, stopped, _⟩
      rw [going] at stopped
      cases stopped

theorem Reaches.distinct {requests : Place → Request}
    (reaches : Reaches owner gateway opening log dialogue)
    (opens : Opens owner requests opening.traffic) (coherent : opening.Coherent gateway) :
    dialogue.traffic.Distinct owner place := by
  have ledger := (reaches.traffic coherent).ledger_eq_jobs opens place
  rcases opens.opened place with ⟨jobs, makes, own, caller⟩
  rw [caller] at ledger
  constructor
  · rw [ledger, Multiset.map_coe, List.map_map, Multiset.coe_nodup]
    exact makes.distinct
  · intro ticket listed
    rw [ledger] at listed
    rcases List.mem_map.mp (Multiset.mem_coe.mp listed) with ⟨job, made, rfl⟩
    exact own job made

theorem Reaches.follows {requests : Place → Request}
    (reaches : Reaches owner gateway opening log dialogue)
    (opens : Opens owner requests opening.traffic) (coherent : opening.Coherent gateway)
    (going : dialogue.traffic.pool.stopped = false) :
    Follows owner gateway place dialogue log := by
  induction reaches with
  | refl =>
      rcases opens.opened place with ⟨jobs, _, own, caller⟩
      refine ⟨fun index job calling owned => ?_, fun report member => ?_,
        fun number _ asked => ?_⟩
      · have nobody := opens.others job.ticket (Pool.ticket_mem_of_worker
          (Pool.calling?_eq_some.mp calling) (Multiset.mem_singleton_self _))
        exact absurd (owned.symm.trans nobody) (Option.some_ne_none place)
      · rw [caller] at member
        cases member
      · exact absurd rfl asked
  | @tail log dialogue remarks after before step induction =>
      have reached := before.traffic coherent
      have here := before.coherent coherent
      have orderly := opens.orderly.reaches reached
      have goesOn : dialogue.traffic.pool.stopped = false := by
        rcases step.traffic here with same | step
        · rwa [← same]
        · exact step.going going
      exact step.follows here orderly (reached.faithful opens goesOn) going
        (before.distinct opens coherent) (induction goesOn)

theorem Reaches.reported_led {requests : Place → Request} {command : Command}
    {targets : List Target} (reaches : Reaches owner gateway opening log dialogue)
    (opens : Opens owner requests opening.traffic) (coherent : opening.Coherent gateway)
    (going : dialogue.traffic.pool.stopped = false)
    (asked : requests place = .same command targets) {report : JobReport}
    (reported : report ∈ (dialogue.traffic.callers place).reports) :
    (gateway.call command report.outcome.target).Leads
      (exchangesOf report.job.number log) (.done report.outcome) := by
  have leads := (reaches.follows opens coherent going).reported report reported
  rcases opens.opened place with ⟨jobs, makes, _, caller⟩
  have listed := Multiset.mem_of_le ((reaches.traffic coherent).reports_le_jobs opens place)
    (Multiset.mem_coe.mpr (List.mem_map_of_mem reported))
  rw [caller] at listed
  let job : Job := { report.job with target := report.outcome.target }
  have ticket : job.ticket ∈ jobs.map Job.ticket := Multiset.mem_coe.mp listed
  have called := makes.mem_calls ticket
  rw [asked, Request.calls, callsOf] at called
  rcases List.mem_map.mp called with ⟨target, _, same⟩
  have sameCommand : command = report.job.command := congrArg Prod.snd same
  rwa [sameCommand]

end Dialogue

end ClusterPower.FanOut
