import ClusterPower.Proofs.Campaign.Refusal
import ClusterPower.Proofs.Campaign.Rounds

/-!
Stages follow one another. A stage that is over has come to a final outcome for each of its
targets, and those that have failed take no part in any later stage.
-/

namespace ClusterPower.Campaign

open Conversation

variable {gateway : Gateway} {settings : Settings} {simulation : Bool} {transition : Transition}
  {roster : Roster} {target : Target} {stage : Stage} {progress after : Progress}
  {log before behind : List Line} {line : Line}

/-! ## Requested targets -/

theorem exists_described {targets : List Target} (requested : target ∈ targets) :
    ∃ member ∈ targets, Roster.described? targets target.xname = some member ∧
      member.xname = target.xname := by
  have found : (Roster.described? targets target.xname).isSome = true := by
    rw [Roster.described?, List.find?_isSome]
    exact ⟨target, List.mem_reverse.mpr requested, beq_self_eq_true _⟩
  rcases Option.isSome_iff_exists.mp found with ⟨member, described⟩
  have listed := List.mem_reverse.mp (List.mem_of_find?_eq_some described)
  have same : member.xname = target.xname := by
    unfold Roster.described? at described
    simpa using List.find?_some described
  exact ⟨member, listed, described, same⟩

theorem exists_mem_roster (inventory : Option Inventory) (transition : Transition)
    {targets : List Target} (requested : target ∈ targets) :
    ∃ member ∈ (Roster.ofRequest inventory transition targets).targets,
      member ∈ targets ∧ member.xname = target.xname := by
  cases inventory with
  | none => exact ⟨target, requested, requested, rfl⟩
  | some known =>
      rcases exists_described requested with ⟨member, given, described, same⟩
      refine ⟨member, List.mem_filterMap.mpr ⟨target.xname, ?_, ?_⟩, given, same⟩
      · exact (Coupling.mem_arrange known transition _).mpr
          (Or.inl (List.mem_map_of_mem requested))
      · rw [Roster.resolve?, described]
        rfl

/-! ## Targets of a stage -/

theorem mem_targets_of_entries {failed : List String} :
    target ∈ stage.targets (entriesOf settings transition roster) failed ↔
      target ∈ roster.targets ∧ stage.step ∈ (admission settings transition target).steps ∧
        target.kind = stage.kind ∧ target.xname ∉ failed := by
  simp only [Stage.targets, entriesOf, Stage.includes, List.mem_filter, List.mem_map,
    List.contains_eq_mem, Bool.and_eq_true, decide_eq_true_eq, beq_iff_eq, Bool.not_eq_true',
    decide_eq_false_iff_not]
  constructor
  · rintro ⟨⟨_, ⟨⟨other, listed, rfl⟩, step, kind⟩, rfl⟩, going⟩
    exact ⟨listed, step, kind, going⟩
  · rintro ⟨listed, step, kind, going⟩
    exact ⟨⟨_, ⟨⟨target, listed, rfl⟩, step, kind⟩, rfl⟩, going⟩

theorem mem_stages {step : Transition} {kind : ComponentKind} :
    (⟨step, kind⟩ : Stage) ∈ stages settings ↔
      step ∈ settings.options.transitionOrder ∧ kind ∈ settings.componentOrder step := by
  simp only [stages, List.mem_flatMap, List.mem_map, Stage.mk.injEq]
  constructor
  · rintro ⟨_, ordered, _, listed, rfl, rfl⟩
    exact ⟨ordered, listed⟩
  · rintro ⟨ordered, listed⟩
    exact ⟨step, ordered, kind, listed, rfl, rfl⟩

/-- The target has come to a final outcome, or one of its name has failed. -/
def IsSettled (simulation : Bool) (lines : List Line) (target : Target) : Prop :=
  (∃ outcome ∈ finals simulation lines, outcome.target = target) ∨
    fails target.xname (finals simulation lines) = true

theorem fails_of_subset {xname : String} {part whole : List Outcome} (subset : part ⊆ whole)
    (failed : fails xname part = true) : fails xname whole = true := by
  rcases List.any_eq_true.mp failed with ⟨outcome, member, failure⟩
  exact List.any_eq_true.mpr ⟨outcome, subset member, failure⟩

theorem IsSettled.mono {whole : List Line} (settled : IsSettled simulation log target)
    (subset : log ⊆ whole) : IsSettled simulation whole target := by
  have kept := finals_subset simulation subset
  rcases settled with ⟨outcome, final, own⟩ | failed
  · exact Or.inl ⟨outcome, kept final, own⟩
  · exact Or.inr (fails_of_subset kept failed)

/-! ## Stages that are over -/

section Passed

variable {front stages : List Stage} {ending : Option Progress}

theorem mem_failed_of_stages {xname : String} {entries : List Entry}
    (goes : (Course.through (Stage.course simulation entries) stages progress).Goes gateway
      log (some after)) :
    xname ∈ after.failed ↔
      xname ∈ progress.failed ∨ fails xname (finals simulation log) = true := by
  rw [(records_stages goes).recorded, mem_failed_recordAll]

theorem passed_stage {entries : List Entry}
    (goes : (Course.through (Stage.course simulation entries) stages progress).Goes gateway
      log (some after))
    (member : stage ∈ stages) :
    ∃ first start part ending last, log = first ++ (part ++ last) ∧
      (∀ xname, xname ∈ start.failed ↔
        xname ∈ progress.failed ∨ fails xname (finals simulation first) = true) ∧
      (stage.course simulation entries start).Goes gateway part (some ending) := by
  rcases List.append_of_mem member with ⟨front, behind, rfl⟩
  rw [Course.through_append] at goes
  rcases Course.Goes.of_bind goes with ⟨_, finished⟩ | ⟨first, start, rest, before, remaining, rfl⟩
  · cases finished
  rcases Course.Goes.of_bind remaining with ⟨_, finished⟩ | ⟨part, ending, last, here, _, rfl⟩
  · cases finished
  · exact ⟨first, start, part, ending, last, rfl, fun _ => mem_failed_of_stages before, here⟩

theorem isSettled_of_passed
    (goes : (Course.through (Stage.course simulation (entriesOf settings transition roster))
      stages progress).Goes gateway log (some after))
    (fresh : progress.failed = []) (member : stage ∈ stages)
    (listed : target ∈ roster.targets)
    (step : stage.step ∈ (admission settings transition target).steps)
    (kind : target.kind = stage.kind) : IsSettled simulation log target := by
  rcases passed_stage goes member with ⟨first, start, part, ending, last, rfl, failed, here⟩
  by_cases out : target.xname ∈ start.failed
  · rw [failed, fresh] at out
    have failed := out.resolve_left List.not_mem_nil
    exact IsSettled.mono (Or.inr failed) (List.subset_append_left _ _)
  · have inStage := mem_targets_of_entries.mpr ⟨listed, step, kind, out⟩
    rcases round_of_stage here inStage with
      ⟨before, batch, begun, ended, lines, behind, inBatch, inRound, rfl⟩
    rcases List.mem_map.mp ((inRound.final _ rfl).symm.subset inBatch) with
      ⟨outcome, final, own⟩
    have settled : IsSettled simulation lines target := Or.inl ⟨outcome, final, own⟩
    refine settled.mono ?_
    intro line written
    simp [written]

/-! ## Lines of stages -/

theorem stage_of_asked {request : Http.Request} {answer : Http.Answer}
    (goes : (Course.through (Stage.course simulation (entriesOf settings transition roster))
      stages progress).Goes gateway log ending)
    (asked : .asked target request answer ∈ log) :
    ∃ stage ∈ stages, ∃ failed,
      target ∈ stage.targets (entriesOf settings transition roster) failed := by
  rcases List.append_of_mem asked with ⟨before, behind, rfl⟩
  rcases Course.Goes.of_through goes with
    ⟨front, stage, others, _, middle, _, _, _, _, rfl, rfl, rfl, _, here, _⟩
  exact ⟨stage, by simp, middle.failed, mem_targets_of_asked here List.mem_append_cons_self⟩

end Passed

/-! ## Campaigns -/

theorem goes_stages {inventory : Option Inventory} {targets : List Target}
    {ending : Option Report}
    (goes : (course settings simulation inventory transition targets).Goes gateway log ending) :
    let roster := Roster.ofRequest inventory transition targets
    let report := opening settings transition roster
    (log = [] ∧ 0 < report.failures) ∨
      (report.failures = 0 ∧ ∃ last,
        (Course.through (Stage.course simulation (entriesOf settings transition roster))
          (stages settings) { report }).Goes gateway log last ∧
        ∀ final, ending = some final → ∃ progress, last = some progress ∧
          final = conclude transition progress.report) := by
  intro roster report
  unfold course ofRoster at goes
  dsimp only at goes
  split at goes
  · next offended => exact Or.inl ⟨(Course.goes_done goes).1, offended⟩
  · next passed =>
    refine Or.inr ⟨Nat.eq_zero_of_not_pos passed, ?_⟩
    rcases Course.Goes.of_bind goes with ⟨here, rfl⟩ | ⟨first, progress, rest, here, ended, rfl⟩
    · exact ⟨none, here, fun _ finished => by cases finished⟩
    · rcases Course.goes_done ended with ⟨rfl, finished⟩
      rw [List.append_nil]
      refine ⟨some progress, here, fun final equal => ⟨progress, rfl, ?_⟩⟩
      rcases finished with finished | finished
      · rw [finished] at equal
        cases equal
      · rw [finished] at equal
        cases equal
        rfl

/-! ## Carrying out stages -/

section Alone

variable {entries : List Entry} {stages : List Stage}

theorem targets_eq_singleton {failed : List String}
    (one : (stage.targets entries failed).length = 1)
    (member : target ∈ stage.targets entries failed) :
    stage.targets entries failed = [target] := by
  rcases List.length_eq_one_iff.mp one with ⟨other, single⟩
  rw [single, List.mem_singleton] at member
  rw [single, member]

theorem goes_stage_alone (alone : stage.targets entries progress.failed = [target])
    (goes : (round simulation stage.step [target] progress).Goes gateway log (some after)) :
    (stage.course simulation entries progress).Goes gateway log (some after) := by
  have rounds : Coupling.rounds ([target].map (·.xname)) = [[target.xname]] := by
    have first : (Coupling.partner? target.xname).any [].contains = false := by
      cases Coupling.partner? target.xname <;> rfl
    simp [Coupling.rounds, Coupling.roundsFrom, first]
  unfold Stage.course
  dsimp only
  rw [alone, rounds]
  have batch : [target].filter (fun other => [target.xname].contains other.xname) = [target] := by
    simp
  rw [Course.through]
  rw [batch, ← List.append_nil log]
  exact goes.bind (.done after)

theorem goes_stages_idle
    (nobody : ∀ stage ∈ stages, ∀ entry ∈ entries, stage.includes entry = false) :
    (Course.through (Stage.course simulation entries) stages progress).Goes gateway []
      (some progress) := by
  induction stages with
  | nil => exact .done progress
  | cons stage rest induction =>
      have none : stage.targets entries progress.failed = [] := by
        have excluded : entries.filter stage.includes = [] := by
          rw [List.filter_eq_nil_iff]
          intro entry member
          simp [nobody stage List.mem_cons_self entry member]
        rw [Stage.targets, excluded]
        rfl
      have idle : (stage.course simulation entries progress).Goes gateway [] (some progress) := by
        unfold Stage.course
        dsimp only
        rw [none]
        exact .done progress
      exact idle.bind (induction fun stage member => nobody stage (List.mem_cons_of_mem _ member))

theorem goes_next_stage {behind : List Stage} {rest : List Line} {ending : Option Progress}
    (nobody : ∀ stage ∈ stages, ∀ entry ∈ entries, stage.includes entry = false)
    (here : (stage.course simulation entries progress).Goes gateway log (some after))
    (goes : (Course.through (Stage.course simulation entries) behind after).Goes gateway rest
      ending) :
    (Course.through (Stage.course simulation entries) (stages ++ stage :: behind) progress).Goes
      gateway (log ++ rest) ending := by
  rw [Course.through_append]
  exact (goes_stages_idle nobody).bind (here.bind goes)

end Alone

theorem goes_of_stages {inventory : Option Inventory} {targets : List Target}
    (passed : (opening settings transition (.ofRequest inventory transition targets)).failures = 0)
    (goes : (Course.through (Stage.course simulation
      (entriesOf settings transition (.ofRequest inventory transition targets)))
      (stages settings)
      { report := opening settings transition (.ofRequest inventory transition targets) }).Goes
        gateway log (some progress)) :
    (course settings simulation inventory transition targets).Goes gateway log
      (some (conclude transition progress.report)) := by
  unfold course ofRoster
  rw [if_neg (by omega), ← List.append_nil log]
  exact goes.bind (.done _)

theorem goes_of_one_stage {inventory : Option Inventory} {targets : List Target}
    {front rear : List Stage}
    (passed : (opening settings transition (.ofRequest inventory transition targets)).failures = 0)
    (split : stages settings = front ++ stage :: rear)
    (idle : ∀ other ∈ front ++ rear,
      ∀ entry ∈ entriesOf settings transition (.ofRequest inventory transition targets),
        other.includes entry = false)
    (goes : (stage.course simulation
      (entriesOf settings transition (.ofRequest inventory transition targets))
      { report := opening settings transition (.ofRequest inventory transition targets) }).Goes
        gateway log (some progress)) :
    (course settings simulation inventory transition targets).Goes gateway log
      (some (conclude transition progress.report)) := by
  rw [List.forall_mem_append] at idle
  apply goes_of_stages passed
  rw [split, ← List.append_nil log]
  exact goes_next_stage idle.1 goes (goes_stages_idle idle.2)

end ClusterPower.Campaign
