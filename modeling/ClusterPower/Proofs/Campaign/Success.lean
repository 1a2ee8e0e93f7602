import ClusterPower.Proofs.Campaign.Stages
import ClusterPower.Settings.Document

/-!
What a success covers. A campaign without failures has an outcome for each target that one of
its stages includes, and for each that is spared. Of any other target it says nothing, although
it was admitted; and where the pool is stopped, it says nothing of those that have a stage.
-/

namespace ClusterPower.Campaign

open Conversation

variable {gateway : Gateway} {settings : Settings} {simulation : Bool} {transition : Transition}
  {roster : Roster} {target : Target} {progress after : Progress} {log : List Event}

/-! ## Reports that grow -/

namespace Report

variable {report middle after : Report} {outcome : Outcome} {first second : List Outcome}

/-- What follows a report that has taken up some more outcomes. -/
structure Grows (report after : Report) (more : List Outcome) : Prop where
  outcomes : after.outcomes = report.outcomes ++ more
  failures : after.failures = report.failures + more.countP fun outcome => !outcome.isOk
  error : after.error = report.error

theorem grows_none : report.Grows report [] where
  outcomes := (List.append_nil _).symm
  failures := rfl
  error := rfl

theorem grows_note (ok : outcome.isOk = true) : report.Grows (report.note outcome) [outcome] where
  outcomes := rfl
  failures := by simp [note, ok]
  error := rfl

theorem grows_fail (failed : outcome.isOk = false) :
    report.Grows (report.fail outcome) [outcome] where
  outcomes := rfl
  failures := by simp [fail, failed]
  error := rfl

theorem Grows.trans (before : report.Grows middle first) (behind : middle.Grows after second) :
    report.Grows after (first ++ second) where
  outcomes := by rw [behind.outcomes, before.outcomes, List.append_assoc]
  failures := by rw [behind.failures, before.failures, List.countP_append, Nat.add_assoc]
  error := behind.error.trans before.error

theorem grows_foldl {Item : Type} {step : Report → Item → Report} {added : Item → List Outcome}
    (each : ∀ report item, Grows report (step report item) (added item)) (items : List Item)
    (report : Report) : report.Grows (items.foldl step report) (items.flatMap added) := by
  induction items generalizing report with
  | nil => exact grows_none
  | cons item rest induction => exact (each report item).trans (induction _)

theorem Grows.isOk_of_mem (grows : report.Grows after first) (none : after.failures = 0)
    (member : outcome ∈ first) : outcome.isOk = true := by
  have uncounted : first.countP (fun outcome => !outcome.isOk) = 0 := by
    rw [grows.failures] at none
    exact (Nat.add_eq_zero_iff.mp none).2
  simpa using List.countP_eq_zero.mp uncounted outcome member

theorem grows_judge (report : Report) (target : Target) :
    report.Grows (report.judge settings transition target)
      ((admission settings transition target).outcome? transition target).toList := by
  have counted (counts : Bool) :
      report.Grows (if counts then { report with total := report.total + 1 } else report) [] := by
    cases counts with
    | false => exact grows_none
    | true => exact ⟨(List.append_nil _).symm, rfl, rfl⟩
  unfold judge
  cases (admission settings transition target) with
  | admitted steps => exact counted true
  | spared error => exact (counted true).trans (grows_note rfl)
  | refused obstacle => exact (counted _).trans (grows_fail rfl)

end Report

theorem grows_opening (settings : Settings) (transition : Transition) (roster : Roster) :
    Report.Grows {} (opening settings transition roster)
      (roster.missing.flatMap (fun xname => [missingOutcome xname]) ++
        roster.targets.flatMap fun target =>
          ((admission settings transition target).outcome? transition target).toList) := by
  have missing (report : Report) (xname : String) :
      report.Grows (report.fail (missingOutcome xname)) [missingOutcome xname] :=
    Report.grows_fail rfl
  have judged (report : Report) : report.Grows
      (roster.targets.foldl (Report.judge settings transition) report) _ :=
    Report.grows_foldl Report.grows_judge roster.targets report
  exact (Report.grows_foldl missing roster.missing {}).trans (judged _)

theorem outcomes_opening (settings : Settings) (transition : Transition) (roster : Roster) :
    (opening settings transition roster).outcomes =
      roster.missing.map missingOutcome ++ roster.targets.filterMap fun target =>
        (admission settings transition target).outcome? transition target := by
  rw [(grows_opening settings transition roster).outcomes, List.map_eq_flatMap,
    List.filterMap_eq_flatMap_toList]
  rfl

theorem mem_outcomes_opening {outcome : Outcome} :
    outcome ∈ (opening settings transition roster).outcomes ↔
      (∃ xname ∈ roster.missing, missingOutcome xname = outcome) ∨
        ∃ target ∈ roster.targets,
          (admission settings transition target).outcome? transition target = some outcome := by
  rw [outcomes_opening, List.mem_append, List.mem_map, List.mem_filterMap]

theorem grows_recordAll (progress : Progress) (outcomes : List Outcome) :
    progress.report.Grows (progress.recordAll outcomes).report outcomes := by
  induction outcomes generalizing progress with
  | nil => exact Report.grows_none
  | cons outcome rest induction =>
      have once : progress.report.Grows (progress.record outcome).report [outcome] := by
        unfold Progress.record
        cases ok : outcome.isOk with
        | true => exact Report.grows_note ok
        | false => exact Report.grows_fail ok
      exact once.trans (induction _)

/-! ## Who has come to an outcome -/

/-- Some outcomes have been recorded. Unless there are failures among them or before them, they
are those of the given targets. -/
def Comes (progress after : Progress) (targets : List Target) : Prop :=
  ∃ outcomes, after = progress.recordAll outcomes ∧
    (progress.failed = [] → (∀ outcome ∈ outcomes, outcome.isOk = true) →
      ∀ target, target ∈ outcomes.map (·.target) ↔ target ∈ targets)

theorem comes_round {step : Transition} {batch : List Target}
    (runs : (round simulation step batch progress).Runs gateway log after) :
    Comes progress after batch := by
  unfold round at runs
  cases runs with
  | @change _ _ _ outcomes _ _ answers runs =>
      have called (target : Target) : target ∈ outcomes.map (·.target) ↔ target ∈ batch := by
        have perm := answers.perm_map id (·.target) fun target _ outcome ends =>
          gateway.regards_call _ target outcome ends
        rw [List.map_id] at perm
        exact perm.mem_iff
      by_cases waits : (step.isOff && !simulation) = true
      · simp only [waits, if_true] at runs
        split at runs
        · next nothing =>
          cases runs
          exact ⟨outcomes, by rw [failures_eq_self nothing], fun _ _ => called⟩
        · cases runs with
          | @awaitOff _ _ waited _ _ ended runs =>
              cases runs
              have settled (target : Target) : target ∈ waited.map (·.target) ↔
                  target ∈ (outcomes.filter Outcome.isOk).map (·.target) := by
                have perm := ended.perm_map id (·.target) fun target _ outcome ends =>
                  gateway.regards_awaitOff target _ _ outcome ends
                rw [List.map_id] at perm
                exact perm.mem_iff
              refine ⟨_, recordAll_append _ _ _, fun _ _ target => ?_⟩
              rw [List.map_append, List.mem_append, settled, ← called, ← List.mem_append,
                ← List.map_append]
              exact ((List.perm_append_comm.trans
                (List.filter_append_perm Outcome.isOk outcomes)).map _).mem_iff
      · simp only [if_neg waits] at runs
        cases runs
        exact ⟨outcomes, rfl, fun _ _ => called⟩

theorem comes_through {Item : Type} {body : Item → Progress → Course Progress}
    {part : Item → List Target} {items : List Item}
    (runs : (Course.through body items progress).Runs gateway log after)
    (each : ∀ item start log ending, (body item start).Runs gateway log ending →
      Comes start ending (part item)) :
    Comes progress after (items.flatMap part) := by
  induction items generalizing progress log with
  | nil =>
      cases runs
      exact ⟨[], rfl, fun _ _ _ => Iff.rfl⟩
  | cons item rest induction =>
      rcases Course.Runs.of_bind runs with ⟨_, middle, _, here, remaining, _⟩
      rcases each item progress _ middle here with ⟨first, rfl, own⟩
      rcases induction remaining with ⟨second, rfl, others⟩
      refine ⟨first ++ second, recordAll_append _ _ _, fun fresh ok target => ?_⟩
      rw [List.forall_mem_append] at ok
      have going : (progress.recordAll first).failed = [] := by
        rw [List.eq_nil_iff_forall_not_mem]
        intro xname failed
        rw [mem_failed_recordAll, fresh, fails, List.any_eq_true] at failed
        rcases failed with nothing | ⟨outcome, member, failure⟩
        · cases nothing
        · simp [ok.1 outcome member] at failure
      rw [List.map_append, List.mem_append, own fresh ok.1, others going ok.2,
        List.flatMap_cons, List.mem_append]

section Stage

variable {entries : List Entry} {stage : Stage}

theorem comes_stage (runs : (stage.course simulation entries progress).Runs gateway log after) :
    Comes progress after (stage.targets entries []) := by
  unfold Stage.course at runs
  dsimp only at runs
  rcases comes_through runs fun _ _ _ _ => comes_round with ⟨outcomes, recorded, own⟩
  refine ⟨outcomes, recorded, fun fresh ok target => ?_⟩
  rw [own fresh ok, fresh, List.mem_flatMap]
  constructor
  · rintro ⟨names, _, inRound⟩
    exact List.mem_of_mem_filter inRound
  · intro member
    have named := List.mem_map_of_mem (f := Target.xname) member
    rw [← Coupling.flatten_rounds ((stage.targets entries []).map (·.xname)),
      List.mem_flatten] at named
    rcases named with ⟨names, listed, named⟩
    exact ⟨names, listed, List.mem_filter.mpr ⟨member, List.contains_iff_mem.mpr named⟩⟩

end Stage

/-! ## Successes -/

/-- The report names a success of the target. -/
def Report.Covers (report : Report) (xname : String) : Prop :=
  ∃ outcome ∈ report.outcomes, outcome.isOk = true ∧ outcome.target.xname = xname

/-- A restart that the target cannot do is ignored. -/
def Spares (settings : Settings) (transition : Transition) (target : Target) : Prop :=
  ∃ error, admission settings transition target = .spared error

/-- One of the steps of the target has its place in the configured order, and its kind a place
in the order of the step. -/
def HasStage (settings : Settings) (transition : Transition) (target : Target) : Prop :=
  ∃ step ∈ (admission settings transition target).steps,
    step ∈ settings.options.transitionOrder ∧ target.kind ∈ settings.componentOrder step

theorem hasStage_iff (listed : target ∈ roster.targets) :
    HasStage settings transition target ↔
      ∃ stage ∈ stages settings,
        target ∈ stage.targets (entriesOf settings transition roster) [] := by
  constructor
  · rintro ⟨step, inSteps, place⟩
    exact ⟨⟨step, target.kind⟩, mem_stages.mpr place,
      mem_targets_of_entries.mpr ⟨listed, inSteps, rfl, List.not_mem_nil⟩⟩
  · rintro ⟨stage, place, inStage⟩
    rcases mem_targets_of_entries.mp inStage with ⟨_, inSteps, kind, _⟩
    have ordered := mem_stages.mp place
    rw [← kind] at ordered
    exact ⟨stage.step, inSteps, ordered⟩

theorem covers_opening_iff {xname : String} :
    (opening settings transition roster).Covers xname ↔
      ∃ member ∈ roster.targets, member.xname = xname ∧ Spares settings transition member := by
  unfold Report.Covers
  simp only [mem_outcomes_opening]
  constructor
  · rintro ⟨_, ⟨_, _, rfl⟩ | ⟨member, listed, noted⟩, ok, rfl⟩
    · cases ok
    · rcases outcome?_eq_some_iff.mp noted with ⟨error, spared, rfl⟩ | ⟨_, _, rfl⟩
      · exact ⟨member, listed, rfl, error, spared⟩
      · cases ok
  · rintro ⟨member, listed, rfl, error, spared⟩
    exact ⟨_, Or.inr ⟨member, listed, outcome?_eq_some_iff.mpr (Or.inl ⟨error, spared, rfl⟩)⟩,
      rfl, rfl⟩

theorem outcomes_of_success {report : Report} {inventory : Option Inventory}
    {targets : List Target}
    (runs : (course settings simulation inventory transition targets).Runs gateway log report)
    (success : report.isOk = true) :
    let roster := Roster.ofRequest inventory transition targets
    ∃ outcomes, report.outcomes = (opening settings transition roster).outcomes ++ outcomes ∧
      (∀ outcome ∈ outcomes, outcome.isOk = true) ∧
      ∀ target, target ∈ outcomes.map (·.target) ↔
        ∃ stage ∈ stages settings,
          target ∈ stage.targets (entriesOf settings transition roster) [] := by
  intro roster
  unfold course ofRoster at runs
  dsimp only at runs
  split at runs
  · cases runs
    cases success
  · next passed =>
    rcases Course.Runs.of_bind runs with ⟨_, progress, _, through, ended, _⟩
    cases ended
    rcases comes_through through fun _ _ _ _ => comes_stage with ⟨outcomes, rfl, own⟩
    have grows := grows_recordAll { report := opening settings transition roster } outcomes
    unfold conclude at success ⊢
    split at success
    · cases success
    · next unfailed =>
      rw [if_neg unfailed]
      have ok : ∀ outcome ∈ outcomes, outcome.isOk = true := fun outcome member =>
        grows.isOk_of_mem (Nat.eq_zero_of_not_pos unfailed) member
      refine ⟨outcomes, grows.outcomes, ok, fun target => ?_⟩
      rw [own rfl ok, List.mem_flatMap]

/-! ## Stopped pools -/

theorem carryOut_bind {Result Next : Type} {pool : Pool} {course : Course Result}
    {result : Result} (following : Result → Course Next)
    (finished : course.carryOut gateway pool = .done result) :
    (course.bind following).carryOut gateway pool =
      (following result).carryOut gateway pool := by
  have inner {Inner : Type} {conversation : Conversation Inner}
      {next : Inner → Conversation Result} (finished : conversation.bind next = .done result) :
      ∃ middle, conversation = .done middle ∧ next middle = .done result := by
    cases conversation with
    | done middle => exact ⟨middle, rfl, finished⟩
    | ask request next => cases finished
    | pause seconds next => cases finished
  induction course with
  | done last =>
      cases finished
      rfl
  | change step targets next induction =>
      rcases inner finished with ⟨outcomes, ran, rest⟩
      simp only [Course.bind, Course.carryOut, ran, Conversation.bind]
      exact induction outcomes rest
  | awaitOff targets next induction =>
      rcases inner finished with ⟨outcomes, ran, rest⟩
      simp only [Course.bind, Course.carryOut, ran, Conversation.bind]
      exact induction outcomes rest

theorem round_of_stopped {pool : Pool} (stopped : pool.stopped = true) (step : Transition)
    (batch : List Target) (progress : Progress) :
    (round simulation step batch progress).carryOut gateway pool = .done progress := by
  simp only [round, Course.carryOut, FanOut.run_of_stopped stopped, Conversation.bind,
    List.filter_nil]
  split <;> rfl

theorem through_of_still {Item : Type} {pool : Pool} {body : Item → Progress → Course Progress}
    (still : ∀ item progress, (body item progress).carryOut gateway pool = .done progress)
    (items : List Item) (progress : Progress) :
    (Course.through body items progress).carryOut gateway pool = .done progress := by
  induction items with
  | nil => rfl
  | cons item rest induction =>
      rw [Course.through, carryOut_bind _ (still item progress)]
      exact induction

theorem run_of_stopped {pool : Pool} (stopped : pool.stopped = true)
    {inventory : Option Inventory} {targets : List Target}
    (passed : (opening gateway.settings transition
      (.ofRequest inventory transition targets)).failures = 0) :
    run gateway pool inventory transition targets =
      .done (opening gateway.settings transition (.ofRequest inventory transition targets)) := by
  have still (entries : List Entry) (stage : Stage) (progress : Progress) :
      (stage.course gateway.simulation entries progress).carryOut gateway pool =
        .done progress :=
    through_of_still (fun _ => round_of_stopped stopped _ _) _ progress
  unfold run course ofRoster
  rw [if_neg (by omega), carryOut_bind _ (through_of_still (still _) _ _)]
  simp only [Course.carryOut, conclude]
  rw [if_neg (by omega)]

/-! ## Campaigns -/

/-- Where each round is answered, a success covers the targets that are spared and those that
have a stage, and no others. At a stopped pool, whatever passes the checks is a success, and
covers those that are spared only. -/
theorem success_covers_what_is_spared_or_staged (gateway : Gateway) (inventory : Option Inventory)
    (transition : Transition) (targets : List Target) :
    let roster := Roster.ofRequest inventory transition targets
    let opening := opening gateway.settings transition roster
    (∀ target ∈ targets, ∃ member ∈ roster.targets, member.xname = target.xname) ∧
    (∀ log report,
      (course gateway.settings gateway.simulation inventory transition targets).Runs gateway log
        report → report.isOk = true → ∀ xname, report.Covers xname ↔
          ∃ member ∈ roster.targets, member.xname = xname ∧
            (Spares gateway.settings transition member ∨
              HasStage gateway.settings transition member)) ∧
    ∀ pool, pool.stopped = true → opening.failures = 0 →
      run gateway pool inventory transition targets = .done opening ∧ opening.isOk = true ∧
      ∀ xname, opening.Covers xname ↔
        ∃ member ∈ roster.targets, member.xname = xname ∧
          Spares gateway.settings transition member := by
  intro roster opening
  refine ⟨fun target requested => ?_, ?_, ?_⟩
  · rcases exists_mem_roster inventory transition requested with ⟨member, listed, _, same⟩
    exact ⟨member, listed, same⟩
  · intro log report runs success xname
    rcases outcomes_of_success runs success with ⟨outcomes, all, ok, own⟩
    have opened : opening.Covers xname ↔ _ := covers_opening_iff
    constructor
    · rintro ⟨outcome, reported, succeeded, rfl⟩
      rw [all] at reported
      rcases List.mem_append.mp reported with noted | recorded
      · rcases opened.mp ⟨outcome, noted, succeeded, rfl⟩ with ⟨member, listed, same, spared⟩
        exact ⟨member, listed, same, Or.inl spared⟩
      · rcases (own _).mp (List.mem_map_of_mem recorded) with ⟨stage, place, inStage⟩
        have listed := (mem_targets_of_entries.mp inStage).1
        exact ⟨_, listed, rfl, Or.inr ((hasStage_iff listed).mpr ⟨stage, place, inStage⟩)⟩
    · rintro ⟨member, listed, rfl, spared | staged⟩
      · rcases opened.mpr ⟨member, listed, rfl, spared⟩ with ⟨outcome, noted, succeeded, same⟩
        exact ⟨outcome, by rw [all]; exact List.mem_append_left _ noted, succeeded, same⟩
      · have inStage := (own member).mpr ((hasStage_iff listed).mp staged)
        rcases List.mem_map.mp inStage with ⟨outcome, recorded, rfl⟩
        exact ⟨outcome, by rw [all]; exact List.mem_append_right _ recorded,
          ok outcome recorded, rfl⟩
  · intro pool stopped passed
    refine ⟨run_of_stopped stopped passed, ?_, fun xname => covers_opening_iff⟩
    rw [Report.isOk, (grows_opening _ _ _).error]
    rfl

theorem success_covers_forced_node :
    let node : Target :=
      { xname := "x0", kind := .node, host := "a", resetTokens := ["ForceOn"] }
    ∃ log report,
      (course {} false none .forceOn [node]).Runs { settings := {}, simulation := false } log
        report ∧
      report.isOk = true ∧ report.Covers "x0" := by
  intro node
  let gateway : Gateway := { settings := {}, simulation := false }
  let world : World Unit := fun _ state => (.reply ⟨200, [], []⟩, state)
  rcases Course.exists_runs_in_world gateway (Pool.isReady_start 1 1) rfl
    (course {} false none .forceOn [node]) world () with ⟨log, runs⟩
  have success :
      ((run gateway (Pool.create 1 1).start none .forceOn [node]).run world ()).1.isOk = true := by
    decide +kernel
  have staged : HasStage {} .forceOn node :=
    ⟨.forceOn, by decide +kernel, by decide +kernel, by decide +kernel⟩
  have covers := (success_covers_what_is_spared_or_staged gateway none .forceOn [node]).2.1 log _
    runs success "x0"
  exact ⟨log, _, runs, success,
    covers.mpr ⟨node, List.mem_singleton_self _, rfl, Or.inr staged⟩⟩

/-- A transition without a place in the configured order is a success that is sent to nobody,
and so is every transition at a stopped pool. -/
theorem unordered_transition_succeeds_unsent :
    let node : Target := { xname := "x0", kind := .node, resetTokens := ["ForceOn"] }
    (∃ settings report,
      Settings.ofDocument "[CapmcConfiguration]\nReinitActionSeq = [\"Off\", \"On\"]\n" =
        .ok settings ∧
      run { settings, simulation := true } (Pool.create 1 1).start none .forceOn [node] =
        .done report ∧
      report.isOk = true ∧ report.outcomes = []) ∧
    ∃ report,
      run { settings := {}, simulation := false } (Pool.create 1 1).stop none .forceOn [node] =
        .done report ∧
      report.isOk = true ∧ report.outcomes = [] := by
  intro node
  have unsent : (match Settings.ofDocument
      "[CapmcConfiguration]\nReinitActionSeq = [\"Off\", \"On\"]\n" with
    | .ok settings =>
      match run { settings, simulation := true } (Pool.create 1 1).start none .forceOn [node] with
      | .done report => report.isOk && report.outcomes.isEmpty
      | _ => false
    | .error _ => false) = true := by decide +kernel
  constructor
  · split at unsent
    · next settings read =>
      split at unsent
      · next report ended =>
        rw [Bool.and_eq_true, List.isEmpty_iff] at unsent
        exact ⟨settings, report, read, ended, unsent⟩
      · cases unsent
    · cases unsent
  · exact ⟨_, run_of_stopped rfl (by decide +kernel), by decide +kernel, by decide +kernel⟩

end ClusterPower.Campaign
