import ClusterPower.Proofs.Campaign.Runs
import ClusterPower.Proofs.Coupling
import Mathlib.Data.List.Nodup

/-!
The transitions that a campaign sends. Each target goes through its steps in the
configured order, once each, up to the first at which it fails. What holds of one round
is carried over to the rounds of a stage, and from there to all stages.
-/

namespace ClusterPower.Campaign

open Conversation

variable {gateway : Gateway} {simulation : Bool} {xname : String} {step : Transition}
  {progress after : Progress} {log : List Event} {outcomes : List Outcome}

/-! ## Recording -/

theorem mem_failed_recordAll :
    xname ∈ (progress.recordAll outcomes).failed ↔
      xname ∈ progress.failed ∨ fails xname outcomes = true := by
  induction outcomes generalizing progress with
  | nil => simp [Progress.recordAll, fails]
  | cons outcome rest induction =>
      have later := @induction (progress.record outcome)
      have recorded : xname ∈ (progress.record outcome).failed ↔
          xname ∈ progress.failed ∨
            (outcome.target.xname == xname && !outcome.isOk) = true := by
        unfold Progress.record
        cases outcome.isOk with
        | true => simp
        | false =>
            simp only [Bool.false_eq_true, if_false, List.mem_append, List.mem_singleton,
              Bool.not_false, Bool.and_true, beq_iff_eq]
            rw [eq_comm (a := xname)]
      rw [recorded, or_assoc, ← Bool.or_eq_true] at later
      exact later

theorem fails_failures :
    fails xname (outcomes.filter fun outcome => !outcome.isOk) = fails xname outcomes := by
  rw [fails, List.any_filter, fails]
  congr 1
  funext outcome
  cases outcome.isOk <;> simp

theorem mem_names_of_mem {ask : Target → Conversation Outcome} {batch : List Target}
    (answers : Answers ask batch outcomes) (regards : ∀ target, (ask target).Regards target)
    {outcome : Outcome} (member : outcome ∈ outcomes) :
    outcome.target.xname ∈ batch.map (·.xname) := by
  have perm := answers.perm_map (·.xname) (·.target.xname)
    (fun target _ outcome ends => by rw [regards target outcome ends])
  exact perm.subset (List.mem_map_of_mem member)

theorem mem_names_of_fails {ask : Target → Conversation Outcome} {batch : List Target}
    (answers : Answers ask batch outcomes) (regards : ∀ target, (ask target).Regards target)
    (failed : fails xname outcomes = true) : xname ∈ batch.map (·.xname) := by
  rcases List.any_eq_true.mp failed with ⟨outcome, member, both⟩
  rw [Bool.and_eq_true, beq_iff_eq] at both
  rw [← both.1]
  exact mem_names_of_mem answers regards member

/-! ## Rounds -/

/-- What a part of a course does to one target, of a course that sends one step only. -/
structure Visits (xname : String) (step : Transition) (takes : Prop)
    (progress after : Progress) (log : List Event) : Prop where
  whole : IsWhole log
  taken : takes → commands xname log = [step]
  left : ¬takes → commands xname log = []
  failed : xname ∈ after.failed ↔
    xname ∈ progress.failed ∨ failsAt xname step none log = true
  own : ∀ other, failsAt xname other none log = true → other = step ∧ takes

theorem commands_changed_of_not_mem {batch : List Target}
    (absent : xname ∉ batch.map (·.xname)) :
    (Event.changed step batch outcomes).commands xname = [] := by
  have nobody : batch.filter (fun target => target.xname = xname) = [] := by
    rw [List.filter_eq_nil_iff]
    intro target member same
    exact absent (List.mem_map.mpr ⟨target, member, by simpa using same⟩)
  rw [Event.commands, nobody]
  rfl

theorem commands_changed_of_mem {batch : List Target} (distinct : (batch.map (·.xname)).Nodup)
    (member : xname ∈ batch.map (·.xname)) :
    (Event.changed step batch outcomes).commands xname = [step] := by
  have once := distinct.count (a := xname)
  rw [if_pos member] at once
  rw [List.count, List.countP_map, List.countP_eq_length_filter] at once
  rw [Event.commands, List.map_const']
  exact congrArg (List.replicate · step) once

theorem visits_changed {batch : List Target} (distinct : (batch.map (·.xname)).Nodup)
    (answers : Answers (gateway.call (.change step)) batch outcomes)
    (failed : xname ∈ after.failed ↔ xname ∈ progress.failed ∨ fails xname outcomes = true) :
    Visits xname step (xname ∈ batch.map (·.xname)) progress after
      [.changed step batch outcomes] where
  whole := fun _ _ _ equal => by cases equal
  taken member := by
    rw [commands, List.flatMap_singleton, commands_changed_of_mem distinct member]
  left absent := by
    rw [commands, List.flatMap_singleton, commands_changed_of_not_mem absent]
  failed := by simpa [failsAt] using failed
  own other failed := by
    have failed : step = other ∧ fails xname outcomes = true := by simpa [failsAt] using failed
    exact ⟨failed.1.symm, mem_names_of_fails answers (gateway.regards_call _) failed.2⟩

theorem visits_awaited {batch pending : List Target} {waited : List Outcome}
    (distinct : (batch.map (·.xname)).Nodup)
    (answers : Answers (gateway.call (.change step)) batch outcomes)
    (waits : Answers (fun target => gateway.awaitOff target
      gateway.settings.options.offPause gateway.settings.options.offRetries) pending waited)
    (part : ∀ target ∈ pending, target.xname ∈ batch.map (·.xname))
    (failed : xname ∈ after.failed ↔
      (xname ∈ progress.failed ∨ fails xname outcomes = true) ∨ fails xname waited = true) :
    Visits xname step (xname ∈ batch.map (·.xname)) progress after
      [.changed step batch outcomes, .awaited pending waited] where
  whole := fun _ _ _ equal => by cases equal
  taken member := by
    rw [commands, List.flatMap_cons, commands_changed_of_mem distinct member]
    rfl
  left absent := by
    rw [commands, List.flatMap_cons, commands_changed_of_not_mem absent]
    rfl
  failed := by simpa [failsAt, or_assoc] using failed
  own other failed := by
    have failed : step = other ∧ fails xname outcomes = true ∨
        step = other ∧ fails xname waited = true := by simpa [failsAt] using failed
    rcases failed with ⟨same, failed⟩ | ⟨same, failed⟩
    · exact ⟨same.symm, mem_names_of_fails answers (gateway.regards_call _) failed⟩
    · have member := mem_names_of_fails waits
        (fun target => gateway.regards_awaitOff target _ _) failed
      rcases List.mem_map.mp member with ⟨target, listed, rfl⟩
      exact ⟨same.symm, part target listed⟩

theorem round_cases {batch : List Target}
    (runs : (round simulation step batch progress).Runs gateway log after) :
    ∃ outcomes, Answers (gateway.call (.change step)) batch outcomes ∧
      ((log = [.changed step batch outcomes] ∧ ∀ xname, xname ∈ after.failed ↔
        xname ∈ progress.failed ∨ fails xname outcomes = true) ∨
      ∃ pending waited, pending = (outcomes.filter Outcome.isOk).map (·.target) ∧
        Answers (fun target => gateway.awaitOff target gateway.settings.options.offPause
          gateway.settings.options.offRetries) pending waited ∧
        log = [.changed step batch outcomes, .awaited pending waited] ∧
        ∀ xname, xname ∈ after.failed ↔
          (xname ∈ progress.failed ∨ fails xname outcomes = true) ∨
            fails xname waited = true) := by
  unfold round at runs
  cases runs with
  | @change _ _ _ outcomes log _ answers runs =>
      refine ⟨outcomes, answers, ?_⟩
      by_cases waits : (step.isOff && !simulation) = true
      · simp only [waits, if_true] at runs
        split at runs
        · cases runs
          refine Or.inl ⟨rfl, fun xname => ?_⟩
          rw [mem_failed_recordAll, fails_failures]
        · cases runs with
          | awaitOff waits runs =>
              cases runs
              refine Or.inr ⟨_, _, rfl, waits, rfl, fun xname => ?_⟩
              rw [mem_failed_recordAll, mem_failed_recordAll, fails_failures]
      · simp only [if_neg waits] at runs
        cases runs
        exact Or.inl ⟨rfl, fun xname => mem_failed_recordAll⟩

theorem visits_round {batch : List Target} (distinct : (batch.map (·.xname)).Nodup)
    (runs : (round simulation step batch progress).Runs gateway log after) :
    Visits xname step (xname ∈ batch.map (·.xname)) progress after log := by
  rcases round_cases runs with ⟨outcomes, answers, ⟨rfl, failed⟩ |
    ⟨pending, waited, rfl, waits, rfl, failed⟩⟩
  · exact visits_changed distinct answers (failed xname)
  · refine visits_awaited distinct answers waits ?_ (failed xname)
    intro target pending
    rcases List.mem_map.mp pending with ⟨outcome, succeeded, rfl⟩
    exact mem_names_of_mem answers (gateway.regards_call _) (List.mem_of_mem_filter succeeded)

theorem changes_round {batch : List Target}
    (runs : (round simulation step batch progress).Runs gateway log after) :
    ∀ event ∈ log, ∀ target ∈ event.changes, target ∈ batch := by
  rcases round_cases runs with ⟨outcomes, _, ⟨rfl, _⟩ | ⟨pending, waited, _, _, rfl, _⟩⟩
  · simp [Event.changes]
  · simp [Event.changes]

/-! ## Stages -/

theorem Visits.append {middle : Progress} {first second : List Event} {before behind : Prop}
    (start : Visits xname step before progress middle first)
    (rest : Visits xname step behind middle after second) (apart : before → ¬behind) :
    Visits xname step (before ∨ behind) progress after (first ++ second) where
  whole := isWhole_append start.whole rest.whole
  taken either := by
    rw [commands_append]
    rcases either with here | later
    · rw [start.taken here, rest.left (apart here), List.append_nil]
    · rw [start.left fun here => apart here later, rest.taken later, List.nil_append]
  left neither := by
    rw [commands_append, start.left fun here => neither (Or.inl here),
      rest.left fun later => neither (Or.inr later)]
    rfl
  failed := by
    rw [rest.failed, start.failed, failsAt_append _ _ _ _ rest.whole, Bool.or_eq_true, or_assoc]
  own other failed := by
    rw [failsAt_append _ _ _ _ rest.whole, Bool.or_eq_true] at failed
    rcases failed with failed | failed
    · exact ⟨(start.own other failed).1, Or.inl (start.own other failed).2⟩
    · exact ⟨(rest.own other failed).1, Or.inr (rest.own other failed).2⟩

theorem Visits.quiet {takes : Prop} (visits : Visits xname step takes progress after log)
    (unfailed : xname ∉ after.failed) (other : Transition) :
    failsAt xname other none log = false := by
  rw [Bool.eq_false_iff]
  intro fails
  rw [(visits.own other fails).1] at fails
  exact unfailed (visits.failed.mpr (Or.inr fails))

theorem Visits.congr {before behind : Prop} (visits : Visits xname step before progress after log)
    (same : before ↔ behind) : Visits xname step behind progress after log :=
  propext same ▸ visits

theorem visits_rounds {targets : List Target} (distinct : (targets.map (·.xname)).Nodup)
    {rounds : List (List String)} (apart : rounds.flatten.Nodup)
    (runs : (Course.through (fun names progress =>
      round simulation step (targets.filter fun target => names.contains target.xname) progress)
      rounds progress).Runs gateway log after) :
    Visits xname step (xname ∈ rounds.flatten ∧ xname ∈ targets.map (·.xname)) progress after
      log := by
  induction rounds generalizing progress log with
  | nil =>
      cases runs
      exact {
        whole := fun _ _ _ equal => by cases equal
        taken := fun inside => by cases inside.1
        left := fun _ => rfl
        failed := by simp [failsAt]
        own := fun _ failed => by cases failed }
  | cons names rest induction =>
      rcases Course.Runs.of_bind runs with ⟨first, middle, second, here, later, rfl⟩
      rw [List.flatten_cons, List.nodup_append] at apart
      have start : Visits xname step _ progress middle first :=
        visits_round (distinct.sublist (List.filter_sublist.map _)) here
      have inBatch : xname ∈ (targets.filter fun target => names.contains target.xname).map
          (·.xname) ↔ xname ∈ names ∧ xname ∈ targets.map (·.xname) := by
        simp only [List.mem_map, List.mem_filter, List.contains_iff_mem]
        constructor
        · rintro ⟨target, ⟨listed, named⟩, rfl⟩
          exact ⟨named, target, listed, rfl⟩
        · rintro ⟨named, target, listed, rfl⟩
          exact ⟨target, ⟨listed, named⟩, rfl⟩
      have both := (start.congr inBatch).append (induction apart.2.1 later)
        (fun before behind => apart.2.2 _ before.1 _ behind.1 rfl)
      apply both.congr
      rw [List.flatten_cons, List.mem_append, or_and_right]

theorem mem_targets_iff {entries : List Entry} (distinct : (entries.map (·.target.xname)).Nodup)
    {entry : Entry} (member : entry ∈ entries) (stage : Stage) (failed : List String) :
    entry.target.xname ∈ (stage.targets entries failed).map (·.xname) ↔
      stage.includes entry = true ∧ entry.target.xname ∉ failed := by
  simp only [Stage.targets, List.mem_map, List.mem_filter, Bool.not_eq_true',
    List.contains_eq_mem, decide_eq_false_iff_not]
  constructor
  · rintro ⟨target, ⟨⟨other, ⟨listed, included⟩, rfl⟩, going⟩, same⟩
    have equal := List.inj_on_of_nodup_map distinct listed member same
    rw [equal] at included going
    exact ⟨included, going⟩
  · rintro ⟨included, going⟩
    exact ⟨entry.target, ⟨⟨entry, ⟨member, included⟩, rfl⟩, going⟩, rfl⟩

theorem visits_stage {entries : List Entry} (distinct : (entries.map (·.target.xname)).Nodup)
    {entry : Entry} (member : entry ∈ entries) {stage : Stage}
    (runs : (stage.course simulation entries progress).Runs gateway log after) :
    Visits entry.target.xname stage.step
      (stage.includes entry = true ∧ entry.target.xname ∉ progress.failed) progress after
      log := by
  have part : (stage.targets entries progress.failed).Sublist (entries.map (·.target)) :=
    List.filter_sublist.trans (List.filter_sublist.map _)
  have names := part.map Target.xname
  rw [List.map_map] at names
  have stageDistinct := distinct.sublist names
  have visits : Visits entry.target.xname _ _ _ _ _ :=
    visits_rounds stageDistinct (by rwa [Coupling.flatten_rounds]) runs
  apply visits.congr
  rw [Coupling.flatten_rounds, and_self, mem_targets_iff distinct member]

/-! ## All stages -/

def upToFailure (failed : Transition → Bool) : List Transition → List Transition
  | [] => []
  | step :: rest => if failed step then [step] else step :: upToFailure failed rest

def stepsOf (entry : Entry) (stages : List Stage) : List Transition :=
  (stages.filter fun stage => stage.includes entry).map (·.step)

theorem stepsOf_append (entry : Entry) (before behind : List Stage) :
    stepsOf entry (before ++ behind) = stepsOf entry before ++ stepsOf entry behind := by
  rw [stepsOf, List.filter_append, List.map_append]
  rfl

theorem stepsOf_cons (entry : Entry) (stage : Stage) (rest : List Stage) :
    stepsOf entry (stage :: rest) =
      (if stage.includes entry then [stage.step] else []) ++ stepsOf entry rest := by
  unfold stepsOf
  rw [List.filter_cons]
  split <;> rfl

theorem through_stages {entries : List Entry} (distinct : (entries.map (·.target.xname)).Nodup)
    {entry : Entry} (member : entry ∈ entries) {stages : List Stage}
    (apart : (stepsOf entry stages).Nodup)
    (runs : (Course.through (Stage.course simulation entries) stages progress).Runs gateway
      log after) :
    IsWhole log ∧
    (∀ step, failsAt entry.target.xname step none log = true → step ∈ stepsOf entry stages) ∧
    commands entry.target.xname log =
      if entry.target.xname ∈ progress.failed then []
      else upToFailure (fun step => failsAt entry.target.xname step none log)
        (stepsOf entry stages) := by
  induction stages generalizing progress log with
  | nil =>
      cases runs
      refine ⟨fun _ _ _ equal => (by cases equal), fun _ failed => (by cases failed), ?_⟩
      split <;> rfl
  | cons stage rest induction =>
      rcases Course.Runs.of_bind runs with ⟨first, middle, second, here, later, rfl⟩
      have visits := visits_stage distinct member here
      rw [stepsOf_cons, List.nodup_append] at apart
      rcases induction apart.2.1 later with ⟨whole, own, sent⟩
      have failedAt : ∀ step, failsAt entry.target.xname step none (first ++ second) =
          (failsAt entry.target.xname step none first ||
            failsAt entry.target.xname step none second) :=
        fun step => failsAt_append _ step none first whole
      refine ⟨isWhole_append visits.whole whole, ?_, ?_⟩
      · intro step failed
        rw [failedAt, Bool.or_eq_true] at failed
        rw [stepsOf_cons, List.mem_append]
        rcases failed with failed | failed
        · rcases visits.own step failed with ⟨rfl, included, _⟩
          rw [if_pos included]
          exact Or.inl (List.mem_singleton_self _)
        · exact Or.inr (own step failed)
      · rw [commands_append]
        by_cases failed : entry.target.xname ∈ progress.failed
        · rw [if_pos (visits.failed.mpr (Or.inl failed))] at sent
          rw [if_pos failed, visits.left fun takes => takes.2 failed, sent]
          rfl
        rw [if_neg failed]
        by_cases failsNow : entry.target.xname ∈ middle.failed
        · -- The target has failed just now, so the stage has sent it the step.
          have failsHere := (visits.failed.mp failsNow).resolve_left failed
          have takes := (visits.own stage.step failsHere).2
          rw [if_pos failsNow] at sent
          rw [visits.taken takes, sent, List.append_nil, stepsOf_cons, if_pos takes.1,
            List.singleton_append, upToFailure, failedAt, failsHere, Bool.true_or, if_pos rfl]
        · rw [if_neg failsNow] at sent
          simp only [failedAt, visits.quiet failsNow, Bool.false_or]
          by_cases included : stage.includes entry = true
          · have lasts : failsAt entry.target.xname stage.step none second = false := by
              rw [Bool.eq_false_iff]
              intro failsLater
              rw [if_pos included] at apart
              exact apart.2.2 _ (List.mem_singleton_self _) _ (own _ failsLater) rfl
            rw [visits.taken ⟨included, failed⟩, sent, stepsOf_cons, if_pos included,
              List.singleton_append, List.singleton_append, upToFailure, lasts]
            rfl
          · rw [visits.left fun takes => included takes.1, sent, stepsOf_cons, if_neg included]
            rfl

theorem stepsOf_kinds (entry : Entry) (step : Transition) {kinds : List ComponentKind}
    (distinct : kinds.Nodup) :
    stepsOf entry (kinds.map fun kind => ⟨step, kind⟩) =
      if entry.steps.contains step && kinds.contains entry.target.kind then [step] else [] := by
  unfold stepsOf
  rw [List.filter_map, List.map_map]
  cases listed : entry.steps.contains step with
  | false =>
      have nothing : kinds.filter ((·.includes entry) ∘ fun kind => (⟨step, kind⟩ : Stage)) =
          [] := by
        rw [List.filter_eq_nil_iff]
        intro kind _ included
        simp only [Function.comp, Stage.includes, listed, Bool.false_and,
          Bool.false_eq_true] at included
      rw [nothing]
      rfl
  | true =>
      have own : kinds.filter ((·.includes entry) ∘ fun kind => (⟨step, kind⟩ : Stage)) =
          kinds.filter (· == entry.target.kind) := by
        congr 1
        funext kind
        simp only [Function.comp, Stage.includes, listed, Bool.true_and]
        exact BEq.comm
      have once := distinct.count (a := entry.target.kind)
      rw [List.count, List.countP_eq_length_filter] at once
      have same : (Stage.step ∘ fun kind => (⟨step, kind⟩ : Stage)) = fun _ => step := rfl
      rw [own, same, List.map_const', once, Bool.true_and]
      simp only [List.contains_iff_mem]
      split <;> rfl

theorem stepsOf_stages {settings : Settings}
    (kinds : ∀ step, (settings.componentOrder step).Nodup) (entry : Entry) :
    stepsOf entry (stages settings) =
      settings.options.transitionOrder.filter fun step =>
        entry.steps.contains step && (settings.componentOrder step).contains entry.target.kind := by
  unfold stages
  induction settings.options.transitionOrder with
  | nil => rfl
  | cons step rest induction =>
      rw [List.flatMap_cons, stepsOf_append, stepsOf_kinds entry step (kinds step), induction,
        List.filter_cons]
      split <;> rfl

/-! ## Campaigns -/

theorem changes_stage {entries : List Entry} {stage : Stage}
    (runs : (stage.course simulation entries progress).Runs gateway log after) :
    ∀ event ∈ log, ∀ target ∈ event.changes, ∃ entry ∈ entries, entry.target = target := by
  refine Course.Runs.events_through ?_ runs
  intro names progress log after runs event member target changed
  have inStage := List.mem_of_mem_filter (changes_round runs event member target changed)
  rcases List.mem_map.mp (List.mem_of_mem_filter inStage) with ⟨entry, included, same⟩
  exact ⟨entry, List.mem_of_mem_filter included, same⟩

/-- Each target of a campaign that starts is sent its steps, those that have a place in
the configured order, once each and in that order, up to the first at which it fails.
Nothing is sent to anyone else. -/
theorem campaign_sends_steps_in_order {inventory : Option Inventory} {transition : Transition}
    {targets : List Target} {report : Report}
    (order : gateway.settings.options.transitionOrder.Nodup)
    (kinds : ∀ step, (gateway.settings.componentOrder step).Nodup)
    (distinct : ((Roster.ofRequest inventory transition targets).targets.map (·.xname)).Nodup)
    (passed : (opening gateway.settings transition
      (.ofRequest inventory transition targets)).failures = 0)
    (runs : (course gateway.settings gateway.simulation inventory transition targets).Runs
      gateway log report) :
    (∀ event ∈ log, ∀ target ∈ event.changes,
      target ∈ (Roster.ofRequest inventory transition targets).targets) ∧
    ∀ target ∈ (Roster.ofRequest inventory transition targets).targets,
      commands target.xname log =
        upToFailure (fun step => failsAt target.xname step none log)
          (gateway.settings.options.transitionOrder.filter fun step =>
            (admission gateway.settings transition target).steps.contains step &&
              (gateway.settings.componentOrder step).contains target.kind) := by
  unfold course ofRoster at runs
  rw [if_neg (by omega)] at runs
  rcases Course.Runs.of_bind runs with ⟨first, progress, second, sent, concluded, rfl⟩
  cases concluded
  rw [List.append_nil]
  have entryOf {target : Target}
      (listed : target ∈ (Roster.ofRequest inventory transition targets).targets) :
      ⟨target, (admission gateway.settings transition target).steps⟩ ∈
        entriesOf gateway.settings transition (.ofRequest inventory transition targets) :=
    List.mem_map.mpr ⟨target, listed, rfl⟩
  have apart : ((entriesOf gateway.settings transition
      (.ofRequest inventory transition targets)).map (·.target.xname)).Nodup := by
    rw [entriesOf, List.map_map]
    exact distinct
  constructor
  · have changed := Course.Runs.events_through (fun _ _ _ _ runs => changes_stage runs) sent
    intro event member target listed
    rcases changed event member target listed with ⟨entry, entered, rfl⟩
    rcases List.mem_map.mp entered with ⟨other, inRoster, rfl⟩
    exact inRoster
  · intro target listed
    have steps := stepsOf_stages kinds
      ⟨target, (admission gateway.settings transition target).steps⟩
    have once := through_stages apart (entryOf listed)
      (by rw [steps]; exact order.filter _) sent
    rw [once.2.2, if_neg List.not_mem_nil, steps]

theorem restart_sends_off_before_on :
    ∃ log report, (course {} true none .restart [{ xname := "x0", kind := .node }]).Runs
        { settings := {}, simulation := true } log report ∧
      commands "x0" log =
        upToFailure (fun step => failsAt "x0" step none log) [.off, .on] := by
  have ends := ((course {} true none .restart [{ xname := "x0", kind := .node }]).carryOut
    { settings := {}, simulation := true } (Pool.create 1 1).start).mayEnd_run
    (nowhere : World Unit) ()
  rcases Course.exists_runs_of_carryOut (Pool.isReady_start 1 1) rfl ends with ⟨log, runs⟩
  refine ⟨log, _, runs, ?_⟩
  have sent := (campaign_sends_steps_in_order (by decide)
    (fun step => by cases step <;> decide +kernel) (by decide) (by decide +kernel)
    runs).2 _ (List.mem_singleton_self _)
  have steps : (RunOptions.transitionOrder {}).filter (fun step =>
      (admission {} .restart { xname := "x0", kind := .node }).steps.contains step &&
        (Settings.componentOrder {} step).contains ComponentKind.node) = [.off, .on] := by
    decide +kernel
  exact sent.trans (congrArg _ steps)

end ClusterPower.Campaign
