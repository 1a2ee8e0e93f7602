import ClusterPower.Proofs.Campaign.Waits
import ClusterPower.Proofs.FanOut.Exchanges

/-!
Targets that answer by nothing but their own requests. What is carried out for several of them at
once leaves a shuffle of parts, one for each of them, and each part goes the one way that the
answers of its target lead. So it comes to the same outcomes in whatever order the requests are
sent. Only a target that is there more than once can feel the order, where its answers go by what
it was asked before.
-/

namespace ClusterPower.Campaign

open Conversation FanOut

/-! ## Exchanges with targets -/

def Line.asked? : Line → Option (Target × Exchange)
  | asked target request answer => some (target, request, answer)
  | _ => none

def exchangesWith (concerns : Target → Prop) [DecidablePred concerns] (lines : List Line) :
    List Exchange :=
  (lines.filterMap Line.asked?).filterMap fun asked =>
    if concerns asked.1 then some asked.2 else none

def requestsOf (target : Target) (lines : List Line) : List Http.Request :=
  (exchangesWith (· = target) lines).map (·.1)

/-- Each target answers as its behaviour has it, whatever the others are asked meanwhile. -/
def EachAnswers (behaviours : Target → Behaviour) (lines : List Line) : Prop :=
  ∀ target, (behaviours target).Gives (exchangesWith (· = target) lines)

def behavioursAfter (behaviours : Target → Behaviour) (lines : List Line) : Target → Behaviour :=
  fun target => (behaviours target).after (requestsOf target lines)

variable {gateway : Gateway} {behaviours : Target → Behaviour} {lines first second : List Line}
  {target : Target} {concerns : Target → Prop} [DecidablePred concerns]

theorem exchangesWith_append :
    exchangesWith concerns (first ++ second) =
      exchangesWith concerns first ++ exchangesWith concerns second := by
  unfold exchangesWith
  rw [List.filterMap_append, List.filterMap_append]

theorem requestsOf_append :
    requestsOf target (first ++ second) = requestsOf target first ++ requestsOf target second := by
  unfold requestsOf
  rw [exchangesWith_append, List.map_append]

theorem mem_exchangesWith {exchange : Exchange} :
    exchange ∈ exchangesWith concerns lines ↔
      ∃ target, concerns target ∧ .asked target exchange.1 exchange.2 ∈ lines := by
  constructor
  · intro listed
    rcases List.mem_filterMap.mp listed with ⟨⟨target, other⟩, asked, found⟩
    rcases List.mem_filterMap.mp asked with ⟨line, written, same⟩
    simp only [Option.ite_none_right_eq_some, Option.some.injEq] at found
    rw [← found.2]
    cases line with
    | asked => cases same; exact ⟨target, found.1, written⟩
    | began | returned | settled => cases same
  · rintro ⟨target, concerned, written⟩
    exact List.mem_filterMap.mpr ⟨(target, exchange),
      List.mem_filterMap.mpr ⟨_, written, rfl⟩, if_pos concerned⟩

theorem EachAnswers.of_append_left (answers : EachAnswers behaviours (first ++ second)) :
    EachAnswers behaviours first := by
  intro target
  have gives := answers target
  rw [exchangesWith_append] at gives
  exact gives.of_append_left

theorem EachAnswers.of_append_right (answers : EachAnswers behaviours (first ++ second)) :
    EachAnswers (behavioursAfter behaviours first) second := by
  intro target
  have gives := answers target
  rw [exchangesWith_append] at gives
  exact gives.of_append_right

/-! ## Targets with several places -/

/-- What is asked at other places makes no difference to the answers at one. The target cannot
tell them apart: all it sees is one list of requests. -/
def IgnoresOthers (behaviour : Behaviour) : Prop :=
  ∀ own others whole, Interleaves own others whole →
    ∀ request, behaviour (whole ++ [request]) = behaviour (own ++ [request])

theorem IgnoresOthers.steady {behaviour : Behaviour} (ignores : IgnoresOthers behaviour) :
    behaviour.Steady :=
  fun past request => ignores [] past past (.nil_left past) request

/-! ## Parts of a log -/

/-- What has been carried out for one of several targets. -/
structure Part where
  target : Target
  exchanges : List Exchange
  outcome : Outcome

def Part.asked (part : Part) : List (Target × Exchange) :=
  part.exchanges.map (part.target, ·)

/-- Something has been carried out for each of the targets, side by side. Each outcome goes back
to what its own part has asked. -/
structure Carried (ask : Target → Conversation Outcome) (parts : List Part)
    (targets : List Target) (lines : List Line) (outcomes : List Outcome) : Prop where
  targets : (parts.map (·.target)).Perm targets
  outcomes : (parts.map (·.outcome)).Perm outcomes
  led : ∀ part ∈ parts, (ask part.target).Leads part.exchanges (.done part.outcome)
  shuffled : Shuffles (parts.map Part.asked) (lines.filterMap Line.asked?)

def comesTo (ask : Target → Conversation Outcome) (behaviours : Target → Behaviour)
    (target : Target) : Outcome :=
  ((ask target).run (behaviours target).world []).1

def asksOf (ask : Target → Conversation Outcome) (behaviours : Target → Behaviour)
    (target : Target) : List Http.Request :=
  ((ask target).run (behaviours target).world []).2

theorem Part.filterMap_asked (part : Part) (target : Target) :
    part.asked.filterMap (fun asked => if asked.1 = target then some asked.2 else none) =
      if part.target = target then part.exchanges else [] := by
  rw [asked, List.filterMap_map]
  by_cases own : part.target = target <;> simp [own]

theorem Part.exchanges_shuffled {parts : List Part} {whole : List (Target × Exchange)}
    (shuffles : Shuffles (parts.map Part.asked) whole) (target : Target) :
    Shuffles ((parts.filter fun part => part.target = target).map (·.exchanges))
      (whole.filterMap fun asked => if asked.1 = target then some asked.2 else none) := by
  induction parts generalizing whole with
  | nil =>
      cases shuffles
      exact .nil
  | cons part rest induction =>
      cases shuffles with
      | cons shuffles beside =>
          have found := beside.filterMap fun asked =>
            if asked.1 = target then some asked.2 else none
          rw [part.filterMap_asked] at found
          by_cases own : part.target = target
          · rw [if_pos own] at found
            rw [List.filter_cons_of_pos (by simpa using own)]
            exact (induction shuffles).cons found
          · rw [if_neg own] at found
            rw [List.filter_cons_of_neg (by simpa using own), found.eq_of_nil]
            exact induction shuffles

namespace Carried

variable {ask : Target → Conversation Outcome} {parts : List Part} {targets : List Target}
  {outcomes : List Outcome} (carried : Carried ask parts targets lines outcomes)

include carried

theorem length_parts (target : Target) :
    (parts.filter fun part => part.target = target).length = targets.count target := by
  rw [← carried.targets.count_eq target, List.count_eq_countP, List.countP_map,
    List.countP_eq_length_filter]
  rfl

theorem exchanges_shuffled (target : Target) :
    Shuffles ((parts.filter fun part => part.target = target).map (·.exchanges))
      (exchangesWith (· = target) lines) :=
  Part.exchanges_shuffled carried.shuffled target

variable (answers : EachAnswers behaviours lines)
  (settled : ∀ target, (behaviours target).Steady ∨ targets.count target ≤ 1)

include answers settled

theorem gives {part : Part} (member : part ∈ parts) :
    (behaviours part.target).Gives part.exchanges := by
  have shuffled := carried.exchanges_shuffled part.target
  have own : part ∈ parts.filter fun other => other.target = part.target :=
    List.mem_filter.mpr ⟨member, by simp⟩
  rcases settled part.target with steady | single
  · exact steady.gives_sublist (answers _) (shuffled.sublist (List.mem_map_of_mem own))
  · rw [← carried.length_parts] at single
    have alone : (parts.filter fun other => other.target = part.target) = [part] := by
      rcases List.length_eq_one_iff.mp (Nat.le_antisymm single (List.length_pos_of_mem own)) with
        ⟨other, same⟩
      rw [same] at own ⊢
      rw [List.mem_singleton.mp own]
    rw [alone] at shuffled
    rw [← show _ = part.exchanges from shuffled.eq_of_singleton]
    exact answers _

theorem run_eq {part : Part} (member : part ∈ parts) :
    (ask part.target).run (behaviours part.target).world [] =
      (part.outcome, part.exchanges.map (·.1)) :=
  (carried.led part member).run_eq (carried.gives answers settled member)

theorem outcomes_perm : outcomes.Perm (targets.map (comesTo ask behaviours)) := by
  have each : parts.map (·.outcome) = (parts.map (·.target)).map (comesTo ask behaviours) := by
    rw [List.map_map]
    apply List.map_congr_left
    intro part member
    rw [Function.comp_apply, comesTo, carried.run_eq answers settled member]
  have perm := carried.outcomes
  rw [each] at perm
  exact perm.symm.trans (carried.targets.map _)

theorem requests_shuffled (target : Target) :
    Shuffles (List.replicate (targets.count target) (asksOf ask behaviours target))
      (requestsOf target lines) := by
  have shuffled := (carried.exchanges_shuffled target).map (·.1)
  rw [List.map_map] at shuffled
  have same : (parts.filter fun part => part.target = target).map
      (List.map (·.1) ∘ (·.exchanges)) =
        List.replicate (targets.count target) (asksOf ask behaviours target) := by
    rw [List.eq_replicate_iff, List.length_map, carried.length_parts]
    refine ⟨rfl, fun requests listed => ?_⟩
    rcases List.mem_map.mp listed with ⟨part, member, rfl⟩
    rw [List.mem_filter, decide_eq_true_iff] at member
    rw [asksOf, ← member.2, carried.run_eq answers settled member.1]
    rfl
  rwa [same] at shuffled

end Carried

/-! ## Calls -/

section Sends

variable {step : Transition} {targets : List Target} {outcomes : List Outcome}

def askedBy? (owner : Nat → Option Unit) : Remark Unit → Option (Job × Exchange)
  | .asked job request answer =>
    if owner job.number = some () then some (job, request, answer) else none
  | .read _ _ => none

theorem asked_ofRemarks (owner : Nat → Option Unit) (log : List (Remark Unit)) :
    (log.filterMap (Line.ofRemark? owner step)).filterMap Line.asked? =
      (log.filterMap (askedBy? owner)).map fun asked => (asked.1.target, asked.2) := by
  rw [List.filterMap_filterMap, List.map_filterMap]
  apply List.filterMap_congr
  intro remark _
  cases remark with
  | asked job request answer =>
      by_cases owned : owner job.number = some () <;> simp [Line.ofRemark?, askedBy?, owned,
        Line.asked?]
  | read place report => rfl

theorem exchangesOf_eq {owner : Nat → Option Unit} {number : Nat}
    (owned : owner number = some ()) (log : List (Remark Unit)) :
    exchangesOf number log =
      ((log.filterMap (askedBy? owner)).filter fun asked => asked.1.number = number).map (·.2) := by
  rw [List.filter_filterMap, List.map_filterMap]
  apply List.filterMap_congr
  intro remark _
  cases remark with
  | asked job request answer =>
      by_cases same : job.number = number
      · simp [Remark.exchange?, askedBy?, same, owned]
      · by_cases own : owner job.number = some () <;>
          simp [Remark.exchange?, askedBy?, same, own]
  | read place report => rfl

section Sending

variable {owner : Nat → Option Unit} {opening dialogue : Dialogue Unit} {log : List (Remark Unit)}
  {report : JobReport} {asked : Job × Exchange}

theorem Sending.owner_of_received
    (sending : Sending gateway step targets owner opening log dialogue)
    (member : report ∈ (dialogue.traffic.callers ()).received) :
    owner report.job.number = some () := by
  have distinct : dialogue.traffic.Distinct owner () :=
    sending.reaches.distinct sending.opens sending.coherent
  have listed : report.ticket ∈ (dialogue.traffic.callers ()).reports.map JobReport.ticket :=
    List.mem_map_of_mem (List.mem_append_left _ member)
  exact distinct.owned _ (Multiset.mem_add.mpr (Or.inl
    (Multiset.mem_of_le (Caller.reports_le _) (Multiset.mem_coe.mpr listed))))

theorem Sending.numbers_nodup
    (sending : Sending gateway step targets owner opening log dialogue) :
    ((dialogue.traffic.callers ()).received.map (·.job.number)).Nodup := by
  have reaches := sending.reaches.traffic sending.coherent
  exact (reaches.reports_nodup sending.opens ()).sublist ((List.sublist_append_left _ _).map _)

/-- Whatever is asked for the caller is asked by a job of which the report has been read. -/
theorem Sending.exists_report_of_asked
    (sending : Sending gateway step targets owner opening log dialogue)
    (returned : dialogue.traffic.HasReturned owner ())
    (member : asked ∈ log.filterMap (askedBy? owner)) :
    ∃ report ∈ (dialogue.traffic.callers ()).received, report.ticket = asked.1.ticket := by
  have reaches := sending.reaches.traffic sending.coherent
  have willing := (sending.opens.orderly.reaches reaches).willing sending.going ()
  have tickets := reaches.received_perm sending.opens returned willing
  rcases List.mem_filterMap.mp member with ⟨remark, noted, found⟩
  cases remark with
  | asked job request answer =>
      simp only [askedBy?, Option.ite_none_right_eq_some, Option.some.injEq] at found
      have ticket := sending.reaches.ticket_of_asked sending.opens sending.coherent noted found.1
      rw [← found.2]
      exact List.mem_map.mp (tickets.symm.subset ticket)
  | read place report => cases found

theorem Sending.asked_of_received
    (sending : Sending gateway step targets owner opening log dialogue)
    (returned : dialogue.traffic.HasReturned owner ())
    (member : report ∈ (dialogue.traffic.callers ()).received) :
    (exchangesOf report.job.number log).map (report.outcome.target, ·) =
      ((log.filterMap (askedBy? owner)).filter fun asked =>
        asked.1.number = report.job.number).map fun asked => (asked.1.target, asked.2) := by
  rw [exchangesOf_eq (sending.owner_of_received member), List.map_map]
  apply List.map_congr_left
  intro asked own
  rw [List.mem_filter, decide_eq_true_iff] at own
  rcases sending.exists_report_of_asked returned own.1 with ⟨other, read, ticket⟩
  have number : other.job.number = report.job.number :=
    (congrArg Ticket.number ticket).trans own.2
  rw [List.inj_on_of_nodup_map sending.numbers_nodup read member number] at ticket
  have target : report.outcome.target = asked.1.target := congrArg Ticket.target ticket
  rw [Function.comp_apply, target]

end Sending

theorem Sends.carried (sends : Sends gateway step targets lines (some outcomes)) :
    ∃ parts, Carried (gateway.call (.change step)) parts targets lines outcomes := by
  have perm := sends.perm
  cases sends with
  | @sent owner opening log dialogue sending returned =>
      let received := (dialogue.traffic.callers ()).received
      refine ⟨received.map fun report =>
        ⟨report.outcome.target, exchangesOf report.job.number log, report.outcome⟩, ?_, ?_, ?_, ?_⟩
      · simpa only [List.map_map, Function.comp_def] using perm
      · rw [List.map_map]
        exact .refl _
      · rw [List.forall_mem_map]
        exact fun report member => sending.reaches.reported_led sending.opens sending.coherent
          sending.going rfl (List.mem_append_left _ member)
      · have listed : ∀ asked ∈ log.filterMap (askedBy? owner),
            asked.1.number ∈ received.map (·.job.number) := by
          intro asked member
          rcases sending.exists_report_of_asked returned member with ⟨report, read, ticket⟩
          exact List.mem_map.mpr ⟨report, read, congrArg Ticket.number ticket⟩
        have shuffled := (Shuffles.of_keys (fun asked : Job × Exchange => asked.1.number)
          sending.numbers_nodup listed).map fun asked => (asked.1.target, asked.2)
        have each : (received.map fun report => Part.asked ⟨report.outcome.target,
            exchangesOf report.job.number log, report.outcome⟩) = _ :=
          List.map_congr_left fun report member => sending.asked_of_received returned member
        rw [asked_ofRemarks, List.map_map]
        rw [List.map_map, List.map_map] at shuffled
        exact each.symm ▸ shuffled

end Sends

/-! ## Waits -/

theorem asked_asks (target : Target) (events : List Conversation.Event) :
    (asks target events).filterMap Line.asked? =
      (events.filterMap Event.exchange?).map (target, ·) := by
  induction events with
  | nil => rfl
  | cons event rest induction =>
      rw [asks, List.flatMap_cons, List.filterMap_append, ← asks, induction]
      cases event <;> rfl

theorem Waits.carried {targets : List Target} (waits : Waits gateway targets lines []) :
    ∃ parts, Carried (fun target => gateway.awaitOff target gateway.settings.options.offPause
      gateway.settings.options.offRetries) parts targets lines
      (lines.filterMap Line.settled?) := by
  induction size : targets.length generalizing targets lines with
  | zero =>
      rw [List.length_eq_zero_iff] at size
      subst size
      have perm := waits.perm
      rw [List.map_nil, List.append_nil, List.perm_nil, List.map_eq_nil_iff] at perm
      have unasked : lines.filterMap Line.asked? = [] := by
        rw [List.filterMap_eq_nil_iff]
        intro line written
        rcases waits.cases_line written with ⟨_, listed, _⟩ | ⟨_, rfl⟩
        · cases listed
        · rfl
      refine ⟨[], .refl _, ?_, List.forall_mem_nil _, ?_⟩
      · rw [perm]
        exact .refl _
      · rw [unasked]
        exact .nil
  | succ count induction =>
      have some : ∃ outcome, outcome ∈ lines.filterMap Line.settled? := by
        have perm := waits.perm.length_eq
        rw [List.map_nil, List.append_nil, List.length_map, size] at perm
        exact List.exists_mem_of_length_pos (by omega)
      rcases some with ⟨outcome, settled⟩
      rcases List.mem_filterMap.mp settled with ⟨line, written, found⟩
      rcases waits.cases_line written with ⟨_, _, _, _, rfl⟩ | ⟨_, rfl⟩
      · cases found
      cases found
      rcases waits.settled written with ⟨events, ⟨others, rest, perm, remaining, beside⟩, goes⟩
      have fewer : others.length = count := by
        have length := perm.length_eq
        rw [List.length_cons, size] at length
        omega
      rcases induction remaining fewer with ⟨parts, carried⟩
      have ended := beside.filterMap Line.settled?
      have asked := beside.filterMap Line.asked?
      rw [List.filterMap_append, filterMap_asks fun _ _ => rfl] at ended
      rw [List.filterMap_append, asked_asks, List.filterMap_cons_none rfl, List.filterMap_nil,
        List.append_nil] at asked
      refine ⟨⟨outcome.target, events.filterMap Event.exchange?, outcome⟩ :: parts, ?_, ?_, ?_, ?_⟩
      · exact (carried.targets.cons _).trans perm
      · exact (carried.outcomes.cons outcome).trans ended.perm
      · rw [List.forall_mem_cons]
        exact ⟨Leads.begin.goes goes, carried.led⟩
      · exact carried.shuffled.cons asked

end ClusterPower.Campaign
