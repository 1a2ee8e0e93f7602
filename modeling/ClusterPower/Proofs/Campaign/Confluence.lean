import ClusterPower.Proofs.Campaign.PowerDown
import ClusterPower.Proofs.Campaign.Replies
import ClusterPower.Proofs.Campaign.RoundRecords

/-!
Where each target answers by nothing but its own requests, the order in which calls and waits end
makes no difference. Two courses that ask for the same are `Course.Alike` if they go on alike
whenever they are given the same outcomes in another order. A campaign is alike itself: what a
round leaves behind are counts, the outcomes as a multiset, and the names that have failed as a
set, and nothing else is looked at later.
-/

namespace ClusterPower.Campaign

open Conversation

/-! ## Reports that differ in the order of their outcomes -/

structure Report.Agrees (report other : Report) : Prop where
  outcomes : report.outcomes.Perm other.outcomes
  failures : report.failures = other.failures
  total : report.total = other.total
  error : report.error = other.error

theorem Report.agrees_self (report : Report) : report.Agrees report :=
  ⟨.refl _, rfl, rfl, rfl⟩

theorem Report.Agrees.conclude {report other : Report} (agrees : report.Agrees other)
    (transition : Transition) :
    (conclude transition report).Agrees (conclude transition other) := by
  unfold Campaign.conclude
  by_cases failed : 0 < report.failures
  · have failedAgain : 0 < other.failures := by rwa [← agrees.failures]
    rw [if_pos failed, if_pos failedAgain]
    refine ⟨agrees.outcomes, agrees.failures, agrees.total, ?_⟩
    dsimp only
    rw [agrees.failures, agrees.total]
  · have unfailed : ¬0 < other.failures := by rwa [← agrees.failures]
    rw [if_neg failed, if_neg unfailed]
    exact agrees

structure Progress.Agrees (progress other : Progress) : Prop where
  failed : progress.failed.Perm other.failed
  report : progress.report.Agrees other.report

theorem recordAll_eq (progress : Progress) (outcomes : List Outcome) :
    progress.recordAll outcomes = {
      failed := progress.failed ++
        (outcomes.filter fun outcome => !outcome.isOk).map (·.target.xname)
      report := { progress.report with
        outcomes := progress.report.outcomes ++ outcomes
        failures := progress.report.failures +
          (outcomes.filter fun outcome => !outcome.isOk).length } } := by
  induction outcomes generalizing progress with
  | nil => simp [Progress.recordAll]
  | cons outcome rest induction =>
      have later := induction (progress.record outcome)
      have recorded : progress.recordAll (outcome :: rest) =
          (progress.record outcome).recordAll rest := rfl
      rw [recorded, later]
      unfold Progress.record
      cases ok : outcome.isOk with
      | true => simp [Report.note, ok]
      | false => simp [Report.fail, Report.note, ok, Nat.add_assoc, Nat.add_comm 1]

theorem Progress.Agrees.recordAll {progress other : Progress} (agrees : progress.Agrees other)
    {outcomes results : List Outcome} (same : outcomes.Perm results) :
    (progress.recordAll outcomes).Agrees (other.recordAll results) := by
  have failures := same.filter fun outcome => !outcome.isOk
  rw [recordAll_eq, recordAll_eq]
  constructor
  · exact agrees.failed.append (failures.map _)
  · constructor
    · exact agrees.report.outcomes.append same
    · dsimp only
      rw [agrees.report.failures, failures.length_eq]
    · exact agrees.report.total
    · exact agrees.report.error

/-! ## Courses that make no difference between orders -/

namespace Course

variable {Result Next Item : Type}

/-- Two courses that ask for the same. Given the same outcomes, in whatever order, they go on
alike, and their results are related in the end. Each target has a number of places, and takes
part with all of them or with none: what it comes to is the same at each. -/
inductive Alike (places : Target → Nat) (related : Result → Result → Prop) :
    Course Result → Course Result → Prop
  | done {result other} (ends : related result other) :
      Alike places related (.done result) (.done other)
  | change {step targets next following}
      (whole : ∀ target ∈ targets, targets.count target = places target)
      (goesOn : ∀ (come : Target → Outcome) outcomes results,
        (∀ target, (come target).target = target) →
        outcomes.Perm (targets.map come) → results.Perm (targets.map come) →
        Alike places related (next outcomes) (following results)) :
      Alike places related (.change step targets next) (.change step targets following)
  | awaitOff {targets others next following}
      (whole : ∀ target ∈ targets, targets.count target = places target)
      (same : targets.Perm others)
      (goesOn : ∀ outcomes results, outcomes.Perm results →
        Alike places related (next outcomes) (following results)) :
      Alike places related (.awaitOff targets next) (.awaitOff others following)

variable {places : Target → Nat} {related : Result → Result → Prop}
  {further : Next → Next → Prop} {course other : Course Result}

theorem Alike.bind {following otherwise : Result → Course Next}
    (alike : course.Alike places related other)
    (goesOn : ∀ result ending, related result ending →
      (following result).Alike places further (otherwise ending)) :
    (course.bind following).Alike places further (other.bind otherwise) := by
  induction alike with
  | done ends => exact goesOn _ _ ends
  | change whole _ induction =>
      exact .change whole fun come outcomes results own first second =>
        induction come outcomes results own first second
  | awaitOff whole same _ induction =>
      exact .awaitOff whole same fun outcomes results perm => induction outcomes results perm

theorem Alike.through {body : Item → Result → Course Result} {items : List Item}
    (each : ∀ item ∈ items, ∀ start beginning, related start beginning →
      (body item start).Alike places related (body item beginning))
    {start beginning : Result} (begins : related start beginning) :
    (through body items start).Alike places related (through body items beginning) := by
  induction items generalizing start beginning with
  | nil => exact .done begins
  | cons item rest induction =>
      apply Alike.bind (each item List.mem_cons_self start beginning begins)
      intro result ending goesOn
      exact induction (fun item member => each item (List.mem_cons_of_mem _ member)) goesOn

/-- In both logs a target is asked the same at each of its places, side by side. -/
def SharesRequests (places : Target → Nat) (first second : List Line) : Prop :=
  ∀ target, ∃ own, Shuffles (List.replicate (places target) own) (requestsOf target first) ∧
    Shuffles (List.replicate (places target) own) (requestsOf target second)

theorem SharesRequests.append {first second more others : List Line}
    (shares : SharesRequests places first second) (later : SharesRequests places more others) :
    SharesRequests places (first ++ more) (second ++ others) := by
  intro target
  rcases shares target with ⟨own, once, again⟩
  rcases later target with ⟨behind, onceLater, againLater⟩
  refine ⟨own ++ behind, ?_, ?_⟩
  · rw [requestsOf_append]
    exact once.append_replicate onceLater
  · rw [requestsOf_append]
    exact again.append_replicate againLater

section Both

variable {ask : Target → Conversation Outcome} {behaviours : Target → Behaviour}
  {parts partsAgain : List Part} {targets others : List Target}
  {lines rest linesAgain restAgain : List Line} {outcomes results : List Outcome}

/-- Each target goes by the request alone, or has one place at most. -/
def Unmixed (places : Target → Nat) (behaviours : Target → Behaviour) : Prop :=
  ∀ target, (behaviours target).Steady ∨ places target ≤ 1

theorem Unmixed.after (unmixed : Unmixed places behaviours) (lines : List Line) :
    Unmixed places (behavioursAfter behaviours lines) :=
  fun target => (unmixed target).imp_left Behaviour.Steady.after

theorem Unmixed.answers_behind (unmixed : Unmixed places behaviours)
    (shares : SharesRequests places lines linesAgain)
    (answers : EachAnswers (behavioursAfter behaviours linesAgain) restAgain) :
    EachAnswers (behavioursAfter behaviours lines) restAgain := by
  intro target
  have gives := answers target
  rcases unmixed target with steady | single
  · exact steady.gives_after_iff.mpr (steady.gives_after_iff.mp gives)
  · rcases shares target with ⟨own, once, again⟩
    rwa [behavioursAfter, Shuffles.unique single once again]

theorem shares_of_carried (unmixed : Unmixed places behaviours)
    (whole : ∀ target ∈ targets, targets.count target = places target)
    (same : targets.Perm others)
    (carried : Carried ask parts targets lines outcomes)
    (carriedAgain : Carried ask partsAgain others linesAgain results)
    (answers : EachAnswers behaviours lines) (answersAgain : EachAnswers behaviours linesAgain) :
    outcomes.Perm (targets.map (comesTo ask behaviours)) ∧
      results.Perm (targets.map (comesTo ask behaviours)) ∧
      SharesRequests places lines linesAgain := by
  have few : ∀ target, (behaviours target).Steady ∨ targets.count target ≤ 1 := by
    intro target
    by_cases listed : target ∈ targets
    · rw [whole target listed]
      exact unmixed target
    · exact Or.inr (List.count_eq_zero.mpr listed ▸ Nat.zero_le 1)
  have fewAgain : ∀ target, (behaviours target).Steady ∨ others.count target ≤ 1 := by
    intro target
    rw [← same.count_eq]
    exact few target
  refine ⟨carried.outcomes_perm answers few,
    (carriedAgain.outcomes_perm answersAgain fewAgain).trans (same.symm.map _), fun target => ?_⟩
  have once := carried.requests_shuffled answers few target
  have again := carriedAgain.requests_shuffled answersAgain fewAgain target
  rw [← same.count_eq] at again
  by_cases listed : target ∈ targets
  · rw [whole target listed] at once again
    exact ⟨_, once, again⟩
  · rw [List.count_eq_zero.mpr listed] at once again
    rw [once.eq_nil, again.eq_nil]
    exact ⟨[], .replicate_nil _, .replicate_nil _⟩

theorem agree_behind {conclusion : Prop} (unmixed : Unmixed places behaviours)
    (whole : ∀ target ∈ targets, targets.count target = places target)
    (same : targets.Perm others)
    (carried : Carried ask parts targets lines outcomes)
    (carriedAgain : Carried ask partsAgain others linesAgain results)
    (answers : EachAnswers behaviours (lines ++ rest))
    (answersAgain : EachAnswers behaviours (linesAgain ++ restAgain))
    (goesOn : outcomes.Perm (targets.map (comesTo ask behaviours)) →
      results.Perm (targets.map (comesTo ask behaviours)) →
      EachAnswers (behavioursAfter behaviours lines) rest →
      EachAnswers (behavioursAfter behaviours lines) restAgain →
      conclusion ∧ SharesRequests places rest restAgain) :
    conclusion ∧ SharesRequests places (lines ++ rest) (linesAgain ++ restAgain) := by
  rcases shares_of_carried unmixed whole same carried carriedAgain answers.of_append_left
    answersAgain.of_append_left with ⟨perm, permAgain, shares⟩
  rcases goesOn perm permAgain answers.of_append_right
    (unmixed.answers_behind shares answersAgain.of_append_right) with ⟨concluded, later⟩
  exact ⟨concluded, shares.append later⟩

end Both

theorem Alike.agree_in_rounds {gateway : Gateway} {behaviours : Target → Behaviour}
    (simulation : Bool) (alike : course.Alike places related other)
    (unmixed : Unmixed places behaviours) {first second : List Line}
    {result ending : Result} (goes : course.Goes gateway first (some result))
    (goesAgain : other.Goes gateway second (some ending))
    (answers : EachAnswers behaviours first) (answersAgain : EachAnswers behaviours second) :
    (related result ending ∧ AgreeInRounds simulation first second) ∧
      SharesRequests places first second := by
  induction alike generalizing behaviours first second with
  | done ends =>
      cases goes
      cases goesAgain
      exact ⟨⟨ends, .nil⟩, fun _ => ⟨[], .replicate_nil _, .replicate_nil _⟩⟩
  | @change step targets _ _ whole goesOn induction =>
      cases goes with
      | change sends goes =>
          cases goesAgain with
          | change sendsAgain goesAgain =>
              rcases sends.carried with ⟨parts, carried⟩
              rcases sendsAgain.carried with ⟨partsAgain, carriedAgain⟩
              refine agree_behind unmixed whole (.refl _) carried carriedAgain answers
                answersAgain fun perm permAgain rest restAgain => ?_
              have own (target : Target) : (comesTo (gateway.call (.change step)) behaviours
                  target).target = target :=
                gateway.regards_call _ _ _ (mayEnd_run _ _ _)
              rcases induction _ _ _ own perm permAgain (unmixed.after _) goes goesAgain rest
                restAgain with ⟨⟨ends, agree⟩, requests⟩
              refine ⟨⟨ends, .began (agree.behind sends.inside sendsAgain.inside ?_) _ _⟩, requests⟩
              rw [sends.finals_eq, sendsAgain.finals_eq]
              exact (perm.trans permAgain.symm).filter _
  | awaitOff whole same goesOn induction =>
      cases goes with
      | awaitOff waits goes =>
          cases goesAgain with
          | awaitOff waitsAgain goesAgain =>
              rcases waits.carried with ⟨parts, carried⟩
              rcases waitsAgain.carried with ⟨partsAgain, carriedAgain⟩
              refine agree_behind unmixed whole same carried carriedAgain answers answersAgain
                fun perm permAgain rest restAgain => ?_
              have both := perm.trans permAgain.symm
              rcases induction _ _ both (unmixed.after _) goes goesAgain rest restAgain with
                ⟨⟨ends, agree⟩, requests⟩
              refine ⟨⟨ends, agree.behind waits.inside waitsAgain.inside ?_⟩, requests⟩
              rwa [waits.finals_eq, waitsAgain.finals_eq]

end Course

/-! ## Campaigns -/

variable {settings : Settings} {simulation : Bool} {transition : Transition} {roster : Roster}
  {progress other : Progress}

theorem count_filter_eq (keeps : Target → Bool) (listed : List Target) :
    ∀ target ∈ listed.filter keeps,
      (listed.filter keeps).count target = listed.count target :=
  fun _ member => List.count_filter (List.mem_filter.mp member).2

theorem alike_round {places : Target → Nat} {batch : List Target} (step : Transition)
    (whole : ∀ target ∈ batch, batch.count target = places target)
    (agrees : progress.Agrees other) :
    (round simulation step batch progress).Alike places Progress.Agrees
      (round simulation step batch other) := by
  apply Course.Alike.change whole
  intro come outcomes results own perm permAgain
  have same := perm.trans permAgain.symm
  by_cases waits : (step.isOff && !simulation) = true
  · rw [if_pos waits, if_pos waits]
    have recorded := agrees.recordAll (same.filter fun outcome => !outcome.isOk)
    have pending := same.filter Outcome.isOk
    have waited : ((outcomes.filter Outcome.isOk).map (·.target)).Perm
        (batch.filter (Outcome.isOk ∘ come)) := by
      have kept := (perm.filter Outcome.isOk).map (·.target)
      rw [List.filter_map, List.map_map] at kept
      rwa [show (·.target) ∘ come = id from funext own, List.map_id] at kept
    have places : ∀ target ∈ (outcomes.filter Outcome.isOk).map (·.target),
        ((outcomes.filter Outcome.isOk).map (·.target)).count target = places target := by
      intro target member
      rw [waited.mem_iff] at member
      rw [waited.count_eq, count_filter_eq _ _ _ member]
      exact whole target (List.mem_filter.mp member).1
    cases found : outcomes.filter Outcome.isOk with
    | nil =>
        rw [found, List.nil_perm] at pending
        rw [pending]
        exact .done recorded
    | cons first rest =>
        cases foundAgain : results.filter Outcome.isOk with
        | nil =>
            rw [found, foundAgain] at pending
            cases pending.eq_nil
        | cons firstAgain restAgain =>
            rw [found, foundAgain] at pending
            rw [found] at places
            apply Course.Alike.awaitOff places (pending.map _)
            intro waited waitedAgain sameWaits
            exact .done (recorded.recordAll sameWaits)
  · rw [if_neg waits, if_neg waits]
    exact .done (agrees.recordAll same)

theorem alike_stage (stage : Stage) (agrees : progress.Agrees other) :
    (stage.course simulation (entriesOf settings transition roster) progress).Alike
      roster.targets.count Progress.Agrees
      (stage.course simulation (entriesOf settings transition roster) other) := by
  have targets : stage.targets (entriesOf settings transition roster) progress.failed =
      stage.targets (entriesOf settings transition roster) other.failed := by
    unfold Stage.targets
    apply List.filter_congr
    intro target _
    rw [Bool.eq_iff_iff]
    simp [agrees.failed.mem_iff]
  unfold Stage.course
  dsimp only
  rw [targets]
  apply Course.Alike.through _ agrees
  intro batch _ start beginning begins
  rw [targets_entriesOf, List.filter_filter]
  exact alike_round stage.step (count_filter_eq _ _) begins

theorem alike_ofRoster :
    (ofRoster settings simulation transition roster).Alike roster.targets.count Report.Agrees
      (ofRoster settings simulation transition roster) := by
  unfold ofRoster
  dsimp only
  split
  · exact .done (Report.agrees_self _)
  · have stages : (Course.through (Stage.course simulation (entriesOf settings transition roster))
        (stages settings) { report := opening settings transition roster }).Alike
        roster.targets.count Progress.Agrees _ :=
      Course.Alike.through (fun stage _ _ _ agrees => alike_stage stage agrees)
        ⟨.refl _, Report.agrees_self _⟩
    exact stages.bind fun result ending agrees => .done (agrees.report.conclude transition)

theorem nodup_names_withBoards {known : Inventory} {targets : List Target}
    (own : ∀ xname component,
      known.component xname = some component → component.xname = xname) :
    ((Roster.withBoards known transition targets).targets.map (·.xname)).Nodup := by
  let names := Coupling.arrange known transition (targets.map (·.xname))
  have underOwn : ∀ name ∈ names, ∀ target,
      Roster.resolve? known targets name = some target → target.xname = name :=
    fun _ _ _ resolved => xname_of_resolved own resolved
  have resolved := names_filter_resolved underOwn fun _ => true
  rw [List.filter_true] at resolved
  unfold Roster.withBoards
  dsimp only
  rw [resolved]
  exact (Coupling.nodup_arrange _ _ _).filter _

/-! ## Carrying out a round -/

theorem goes_stage_at_once {gateway : Gateway} {simulation : Bool} {stage : Stage}
    {entries : List Entry} {batch : List Target} {progress after : Progress} {log : List Line}
    (targets : stage.targets entries progress.failed = batch)
    (rounds : Coupling.rounds (batch.map (·.xname)) = [batch.map (·.xname)])
    (goes : (round simulation stage.step batch progress).Goes gateway log (some after)) :
    (stage.course simulation entries progress).Goes gateway log (some after) := by
  have whole : batch.filter (fun target => (batch.map (·.xname)).contains target.xname) =
      batch := by
    rw [List.filter_eq_self]
    intro target listed
    exact List.contains_iff_mem.mpr (List.mem_map_of_mem listed)
  unfold Stage.course
  dsimp only
  rw [targets, rounds, Course.through, whole, ← List.append_nil log]
  exact goes.bind (.done after)

theorem answeredBy_asks {State Result : Type} {target : Target} (answer : Http.Answer)
    (conversation : Conversation Result) (state : State) :
    ∀ other request given,
      .asked other request given ∈
        asks target (conversation.trace (fun _ state => (answer, state)) state).1 →
      given = answer := by
  induction conversation generalizing state with
  | done result =>
      intro _ _ _ member
      cases member
  | ask request next induction =>
      intro other asked given member
      simp only [trace, asks, List.flatMap_cons, List.cons_append, List.nil_append,
        List.mem_cons] at member
      rcases member with here | later
      · cases here
        rfl
      · exact induction _ _ _ _ _ later
  | pause seconds next induction =>
      intro other asked given member
      exact induction _ _ _ _ member

end ClusterPower.Campaign
