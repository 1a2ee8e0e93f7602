import ClusterPower.Proofs.Campaign.Precedence

/-!
Emulated restarts. A target that cannot restart itself is turned on again only after it was
turned off and has been seen to be off.
-/

namespace ClusterPower.Campaign

variable {gateway : Gateway} {settings : Settings} {simulation : Bool}
  {transition down up : Transition} {roster : Roster} {target : Target} {log : List Line}

/-! ## Off before on -/

/-- The halves of an emulated restart have their places in the configured order, once each and
off first, and every kind that can be restarted can be turned off. -/
structure OffFirst (settings : Settings) (transition down up : Transition) : Prop where
  once : settings.options.transitionOrder.filter (fun step => step = down ∨ step = up) =
    [down, up]
  kinds : ∀ kind ∈ settings.componentOrder transition, kind ∈ settings.componentOrder down

theorem OffFirst.mem_order (first : OffFirst settings transition down up) :
    down ∈ settings.options.transitionOrder := by
  have member : down ∈ [down, up] := List.mem_cons_self
  rw [← first.once] at member
  exact List.mem_of_mem_filter member

theorem OffFirst.pairwise (first : OffFirst settings transition down up)
    (different : down ≠ up) :
    (stages settings).Pairwise fun earlier later => ¬(earlier.step = up ∧ later.step = down) := by
  rw [stages, List.pairwise_flatMap]
  constructor
  · intro step _
    rw [List.pairwise_map, List.pairwise_iff_forall_sublist]
    rintro _ _ _ ⟨turnsOn, turnsOff⟩
    exact different (turnsOff.symm.trans turnsOn)
  · rw [List.pairwise_iff_forall_sublist]
    intro earlier later listed one oneIn other otherIn both
    rcases List.mem_map.mp oneIn with ⟨_, _, rfl⟩
    rcases List.mem_map.mp otherIn with ⟨_, _, rfl⟩
    rcases both with ⟨rfl, rfl⟩
    have swapped := listed.filter fun step => step = later ∨ step = earlier
    rw [first.once] at swapped
    have equal := swapped.eq_of_length (by simp)
    simp only [decide_true, or_true, true_or, List.filter_cons_of_pos, List.filter_nil,
      List.cons.injEq] at equal
    exact different equal.1.symm

/-! ## Targets of a restart -/

theorem cases_admitted {steps : List Transition}
    (admitted : admission settings transition target = .admitted steps) :
    target.kind ∈ settings.componentOrder transition ∧
      (steps = [transition] ∨ transition.isRestart = true ∧ steps = emulated transition) := by
  unfold admission at admitted
  dsimp only at admitted
  split at admitted
  · cases admitted
  · split at admitted
    · cases admitted
    · split at admitted
      · cases admitted
      · next listed =>
        refine ⟨by simpa using listed, ?_⟩
        unfold fitAdmission at admitted
        split at admitted
        · next restarts =>
          split at admitted
          · cases admitted
            exact Or.inl rfl
          · split at admitted
            · cases admitted
              exact Or.inr ⟨restarts, rfl⟩
            · cases admitted
            · cases admitted
        · cases admitted
          exact Or.inl rfl

theorem admitted_of_mem_steps {step : Transition}
    (member : step ∈ (admission settings transition target).steps) :
    admission settings transition target =
      .admitted (admission settings transition target).steps := by
  cases decision : admission settings transition target with
  | admitted steps => rfl
  | spared error =>
      rw [decision] at member
      cases member
  | refused obstacle =>
      rw [decision] at member
      cases member

/-! ## Halves of a restart -/

structure Halves (transition down up : Transition) : Prop where
  restarts : transition.isRestart = true
  emulates : emulated transition = [down, up]
  turnsOff : down.isOff = true
  turnsOn : up.isOn = true

namespace Halves

variable (halves : Halves transition down up)

include halves

theorem different : down ≠ up := by
  rintro rfl
  have turnsOff := halves.turnsOff
  have turnsOn := halves.turnsOn
  cases down <;> cases turnsOff <;> cases turnsOn

theorem switches_neither : transition.isOn = false ∧ transition.isOff = false := by
  have restarts := halves.restarts
  cases transition with
  | restart | forceRestart => exact ⟨rfl, rfl⟩
  | on | off | forceOn | forceOff | nonMaskableInterrupt => cases restarts

theorem cases_step {stage : Stage} {failed : List String}
    (member : target ∈ stage.targets (entriesOf settings transition roster) failed) :
    stage.step = transition ∨ stage.step = down ∨ stage.step = up := by
  have inSteps := (mem_targets_of_entries.mp member).2.1
  rcases (cases_admitted (admitted_of_mem_steps inSteps)).2 with steps | ⟨_, steps⟩
  · rw [steps, List.mem_singleton] at inSteps
    exact Or.inl inSteps
  · rw [steps, halves.emulates] at inSteps
    simpa using Or.inr inSteps

theorem step_eq_up {stage : Stage} {failed : List String}
    (member : target ∈ stage.targets (entriesOf settings transition roster) failed)
    (isOn : stage.step.isOn = true) : stage.step = up := by
  rcases halves.cases_step member with same | same | same
  · rw [same, halves.switches_neither.1] at isOn
    cases isOn
  · have turnsOff := halves.turnsOff
    rw [same] at isOn
    cases down <;> cases isOn <;> cases turnsOff
  · exact same

theorem step_eq_down {stage : Stage} {failed : List String}
    (member : target ∈ stage.targets (entriesOf settings transition roster) failed)
    (isOff : stage.step.isOff = true) : stage.step = down := by
  rcases halves.cases_step member with same | same | same
  · rw [same, halves.switches_neither.2] at isOff
    cases isOff
  · exact same
  · have turnsOn := halves.turnsOn
    rw [same] at isOff
    cases up <;> cases isOff <;> cases turnsOn

theorem steps_eq (inSteps : up ∈ (admission settings transition target).steps) :
    target.kind ∈ settings.componentOrder transition ∧
      (admission settings transition target).steps = [down, up] := by
  rcases cases_admitted (admitted_of_mem_steps inSteps) with ⟨restartable, steps⟩
  refine ⟨restartable, ?_⟩
  rcases steps with steps | ⟨_, steps⟩
  · have turnsOn := halves.turnsOn
    rw [steps, List.mem_singleton] at inSteps
    rw [inSteps, halves.switches_neither.1] at turnsOn
    cases turnsOn
  · rw [steps, halves.emulates]

end Halves

/-! ## Turning off -/

def Line.offOutcome? : Line → Option Outcome
  | returned step outcome => if step.isOff then some outcome else none
  | settled outcome => some outcome
  | _ => none

theorem isOff_of_offOutcome {entries : List Entry} {stage : Stage} {progress : Progress}
    {ending : Option Progress} {line : Line} {outcome : Outcome}
    (goes : (stage.course simulation entries progress).Goes gateway log ending)
    (member : line ∈ log) (tells : line.offOutcome? = some outcome) :
    stage.step.isOff = true := by
  rcases List.append_of_mem member with ⟨before, behind, rfl⟩
  rcases cases_line_of_stage goes with ⟨_, batch, _, _, _, ⟨rfl, _⟩ | ⟨belongs, _⟩⟩
  · cases tells
  · cases belongs with
    | asked => cases tells
    | returned =>
        simp only [Line.offOutcome?, Option.ite_none_right_eq_some] at tells
        exact tells.1
    | settled turnsOff => exact turnsOff

theorem final_of_offOutcome {line : Line} {outcome : Outcome}
    (tells : line.offOutcome? = some outcome) (failed : outcome.isOk = false) :
    line.final? simulation = some outcome := by
  cases line with
  | began | asked => cases tells
  | returned step other =>
      simp only [Line.offOutcome?, Option.ite_none_right_eq_some, Option.some.injEq] at tells
      rcases tells with ⟨_, rfl⟩
      simp [Line.final?, failed]
  | settled other => exact tells

theorem InRound.seen_off {batch : List Target} {start ended : Progress} {lines : List Line}
    (inRound : InRound gateway false down batch start lines (some ended))
    (turnsOff : down.isOff = true) (inBatch : target ∈ batch)
    (unfailed : fails target.xname (finals false lines) = false) :
    ∃ first request answer, first.target = target ∧ first.isOk = true ∧
      gateway.ShowsOff target request answer ∧
      [.returned down first, .asked target request answer].Sublist lines := by
  rcases List.mem_map.mp ((inRound.final _ rfl).symm.subset inBatch) with ⟨outcome, final, rfl⟩
  have ok : outcome.isOk = true := by
    have innocent := List.any_eq_false.mp unfailed outcome final
    simpa using innocent
  rcases List.mem_filterMap.mp final with ⟨line, written, found⟩
  have settled : .settled outcome ∈ lines := by
    cases inRound.belongs line written with
    | asked => cases found
    | returned =>
        simp only [Line.final?, turnsOff, Bool.not_false, Bool.true_and,
          Option.ite_none_left_eq_some, Option.some.injEq] at found
        rcases found with ⟨failed, rfl⟩
        exact absurd ok failed
    | settled =>
        cases found
        exact written
  rcases inRound.confirmed outcome settled ok with
    ⟨first, request, answer, firstOk, same, shows, listed⟩
  exact ⟨first, request, answer, same, firstOk, shows, listed⟩

/-! ## Turning on again -/

section Restart

variable {before behind : List Line} {batch : List Target} {step : Transition}
  {progress : Progress} {ending : Option Progress}

theorem seen_off_of_passed {front : List Stage} {done : List Line} {middle : Progress}
    (finished : (Course.through (Stage.course false (entriesOf settings transition roster)) front
      progress).Goes gateway done (some middle))
    (fresh : progress.failed = []) (turnsOff : down.isOff = true)
    (passed : (⟨down, target.kind⟩ : Stage) ∈ front) (listed : target ∈ roster.targets)
    (inSteps : down ∈ (admission settings transition target).steps)
    (unfailed : fails target.xname (finals false done) = false) :
    ∃ first request answer, first.target = target ∧ first.isOk = true ∧
      gateway.ShowsOff target request answer ∧
      [.returned down first, .asked target request answer].Sublist done := by
  have innocent {part : List Line} (within : part ⊆ done) :
      fails target.xname (finals false part) = false := by
    rw [Bool.eq_false_iff]
    intro failure
    rw [fails_of_subset (finals_subset false within) failure] at unfailed
    cases unfailed
  rcases passed_stage finished passed with ⟨head, start, _, ended, last, rfl, failed, goes⟩
  have going : target.xname ∉ start.failed := by
    rw [failed, fresh, innocent (List.subset_append_left _ _)]
    simp
  rcases round_of_stage goes (mem_targets_of_entries.mpr ⟨listed, inSteps, rfl, going⟩) with
    ⟨before, batch, _, _, lines, behind, inBatch, inRound, rfl⟩
  have part : lines.Sublist
      (head ++ ((before ++ .began down batch :: (lines ++ behind)) ++ last)) := by
    refine ((List.Sublist.trans ?_ (List.sublist_append_right before _)).trans
      (List.sublist_append_left _ last)).trans (List.sublist_append_right head _)
    exact (List.sublist_append_left lines behind).cons _
  rcases inRound.seen_off turnsOff inBatch (innocent part.subset) with
    ⟨first, request, answer, own, ok, shows, inOrder⟩
  exact ⟨first, request, answer, own, ok, shows, inOrder.trans part⟩

theorem Halves.step_of_offOutcome (halves : Halves transition down up) {stage : Stage}
    {start : Progress} {log : List Line} {ending : Option Progress} {line : Line}
    {outcome : Outcome}
    (goes : (stage.course false (entriesOf settings transition roster) start).Goes gateway log
      ending)
    (written : line ∈ log) (tells : line.offOutcome? = some outcome) : stage.step = down := by
  rcases exists_mem_targets goes written with ⟨_, member⟩
  exact halves.step_eq_down member (isOff_of_offOutcome goes written tells)

theorem turned_on_after_off (first : OffFirst settings transition down up)
    (halves : Halves transition down up)
    (goes : (Course.through (Stage.course false (entriesOf settings transition roster))
      (stages settings) progress).Goes gateway (before ++ .began step batch :: behind) ending)
    (fresh : progress.failed = []) (isOn : step.isOn = true) (inBatch : target ∈ batch) :
    step = up ∧
      (∃ first request answer, first.target = target ∧ first.isOk = true ∧
        gateway.ShowsOff target request answer ∧
        [.returned down first, .asked target request answer].Sublist before) ∧
      fails target.xname
        ((before ++ .began step batch :: behind).filterMap Line.offOutcome?) = false := by
  rcases Course.Goes.of_through goes with ⟨front, stage, others, done, middle, within, third,
    rest, _, split, rfl, rfl, finished, here, later⟩
  rcases cases_line_of_stage here with ⟨_, _, _, _, part, ⟨began, _⟩ | ⟨belongs, _⟩⟩
  swap
  · cases belongs
  cases began
  have inStage := mem_targets_of_entries.mp (part target inBatch)
  have turnedOn : stage.step = up := halves.step_eq_up (part target inBatch) isOn
  have ordered := first.pairwise halves.different
  rw [split] at ordered
  have onlyBefore (other : Stage) (listed : other ∈ others) : other.step ≠ down :=
    fun turnedOff => not_mem_behind ordered (fun wrong => wrong ⟨turnedOn, turnedOff⟩) listed
  have unfailed : fails target.xname (finals false done) = false := by
    have out := inStage.2.2.2
    rw [mem_failed_of_stages finished] at out
    simpa using fun failed => out (Or.inr failed)
  refine ⟨turnedOn, ?_, ?_⟩
  · rcases halves.steps_eq (by rw [← turnedOn]; exact inStage.2.1) with ⟨restartable, steps⟩
    have place : (⟨down, target.kind⟩ : Stage) ∈ front ++ stage :: others := by
      rw [← split]
      exact mem_stages.mpr ⟨first.mem_order, first.kinds _ restartable⟩
    have passed : (⟨down, target.kind⟩ : Stage) ∈ front := by
      rcases List.mem_append.mp place with listed | listed
      · exact listed
      · rcases List.mem_cons.mp listed with same | listed
        · rw [← same] at turnedOn
          exact absurd turnedOn halves.different
        · exact absurd rfl (onlyBefore _ listed)
    rcases seen_off_of_passed finished fresh halves.turnsOff passed inStage.1
      (by rw [steps]; exact List.mem_cons_self) unfailed with
      ⟨called, request, answer, own, ok, shows, inOrder⟩
    exact ⟨called, request, answer, own, ok, shows,
      inOrder.trans (List.sublist_append_left done within)⟩
  -- Only the stages before this one turn anybody off, and there the target has not failed.
  · rw [fails, List.any_eq_false]
    intro outcome found
    rcases List.mem_filterMap.mp found with ⟨line, written, tells⟩
    rw [Bool.and_eq_true, beq_iff_eq, Bool.not_eq_true']
    rintro ⟨named, failed⟩
    rw [List.append_assoc, ← List.cons_append, ← List.append_assoc within] at written
    rcases List.mem_append.mp written with written | written
    · have final : outcome ∈ finals false done :=
        List.mem_filterMap.mpr ⟨line, written, final_of_offOutcome tells failed⟩
      have innocent := List.any_eq_false.mp unfailed outcome final
      simp [named, failed] at innocent
    rcases List.mem_append.mp written with written | written
    · have turnedOff := halves.step_of_offOutcome here written tells
      exact halves.different (turnedOff.symm.trans turnedOn)
    · rcases later with rfl | ⟨next, later⟩
      · cases written
      · rcases List.append_of_mem written with ⟨before, behind, rfl⟩
        rcases Course.Goes.of_through later with
          ⟨_, other, _, _, _, _, _, _, _, rfl, _, _, _, inside, _⟩
        exact onlyBefore other (by simp)
          (halves.step_of_offOutcome inside List.mem_append_cons_self tells)

/-- In a campaign of restarts, a target is turned on only after the call that turned it off has
succeeded and it has then been seen to be off. A target is never turned on if turning it off
fails, by the call or by the wait that follows. -/
theorem restart_turns_on_only_what_is_off {inventory : Option Inventory} {targets : List Target}
    {ending : Option Report} (real : gateway.simulation = false)
    (gracefulFirst : OffFirst gateway.settings .restart .off .on)
    (forcedFirst : OffFirst gateway.settings .forceRestart .forceOff .forceOn)
    (restarts : transition.isRestart = true)
    (goes : (course gateway.settings gateway.simulation inventory transition targets).Goes
      gateway log ending) :
    ∀ before step batch behind, log = before ++ .began step batch :: behind →
      step.isOn = true → ∀ target ∈ batch,
        (∃ down first request answer, emulated transition = [down, step] ∧
          first.target = target ∧ first.isOk = true ∧
          gateway.ShowsOff target request answer ∧
          [.returned down first, .asked target request answer].Sublist before) ∧
        fails target.xname (log.filterMap Line.offOutcome?) = false := by
  rintro before step batch behind rfl isOn target inBatch
  rcases goes_stages goes with ⟨nothing, _⟩ | ⟨_, last, within, _⟩
  · simp at nothing
  rw [real] at within
  have switched {down up : Transition} (first : OffFirst gateway.settings transition down up)
      (halves : Halves transition down up) :
      (∃ down first request answer, emulated transition = [down, step] ∧
        first.target = target ∧ first.isOk = true ∧
        gateway.ShowsOff target request answer ∧
        [.returned down first, .asked target request answer].Sublist before) ∧
      fails target.xname
        ((before ++ .began step batch :: behind).filterMap Line.offOutcome?) = false := by
    rcases turned_on_after_off first halves within rfl isOn inBatch with
      ⟨rfl, ⟨called, request, answer, shown⟩, innocent⟩
    exact ⟨⟨down, called, request, answer, halves.emulates, shown⟩, innocent⟩
  cases transition with
  | restart => exact switched gracefulFirst ⟨rfl, rfl, rfl, rfl⟩
  | forceRestart => exact switched forcedFirst ⟨rfl, rfl, rfl, rfl⟩
  | on | off | forceOn | forceOff | nonMaskableInterrupt => cases restarts

theorem node_turned_on_after_off :
    let node : Target :=
      { xname := "x0c0s0b0n0", kind := .node, resource := .computerSystem, host := "a"
        resetTokens := ["Off", "On"] }
    let gateway : Gateway := ⟨{}, false, "https"⟩
    ∃ log report before behind,
      (course {} false none .restart [node]).Goes gateway log (some report) ∧
      log = before ++ .began .on [node] :: behind ∧
      ∃ first request answer, first.isOk = true ∧ gateway.ShowsOff node request answer ∧
        [.returned .off first, .asked node request answer].Sublist before := by
  intro node gateway
  let roster := Roster.ofRequest none .restart [node]
  let entries := entriesOf {} .restart roster
  let answered := Text.utf8 "\x7b\"PowerState\":\"Off\"\x7d"
  let world : Conversation.World Unit := fun _ state => (.reply ⟨200, [], answered⟩, state)
  have inStage {step : Transition} (one : ((Stage.mk step .node).targets entries []).length = 1)
      (inSteps : step ∈ (admission {} .restart node).steps) :
      (Stage.mk step .node).targets entries [] = [node] :=
    targets_eq_singleton one
      (mem_targets_of_entries.mpr ⟨List.mem_singleton_self _, inSteps, rfl, List.not_mem_nil⟩)
  have split : stages {} = [] ++ (⟨.off, .node⟩ ::
      (((stages {}).take 22).drop 1 ++ (⟨.on, .node⟩ :: (stages {}).drop 23))) := by
    decide +kernel
  let start : Progress := { report := opening {} .restart roster }
  let call (step : Transition) := gateway.call (.change step) node
  let wait := gateway.awaitOff node gateway.settings.options.offPause
    gateway.settings.options.offRetries
  let middle := start.recordAll [(wait.run world ()).1]
  have going : middle.failed = [] := by decide +kernel
  let ending := middle.recordAll [((call .on).run world ()).1]
  let turnedOff : List Line := .began .off [node] ::
    ((asks node ((call .off).trace world ()).1 ++ [.returned .off ((call .off).run world ()).1]) ++
      (asks node (wait.trace world ()).1 ++ [.settled (wait.run world ()).1]))
  let turnedOn : List Line := .began .on [node] ::
    (asks node ((call .on).trace world ()).1 ++ [.returned .on ((call .on).run world ()).1])
  have firstStage : ((Stage.mk .off .node).course false entries start).Goes gateway turnedOff
      (some middle) :=
    goes_stage_alone (inStage (by decide +kernel) (by decide +kernel))
      (goes_round_awaited world () .off node start rfl (by decide +kernel))
  have secondStage : ((Stage.mk .on .node).course false entries middle).Goes gateway turnedOn
      (some ending) :=
    goes_stage_alone (by rw [going]; exact inStage (by decide +kernel) (by decide +kernel))
      (goes_round_alone world () .on node middle rfl)
  have all : (Course.through (Stage.course false entries) (stages {}) start).Goes gateway
      (turnedOff ++ (turnedOn ++ [])) (some ending) := by
    rw [split]
    exact goes_next_stage nofun firstStage
      (goes_next_stage (by decide +kernel) secondStage (goes_stages_idle (by decide +kernel)))
  have goes : (course {} false none .restart [node]).Goes gateway (turnedOff ++ (turnedOn ++ []))
      (some (conclude .restart ending.report)) := goes_of_stages (by decide +kernel) all
  have written : turnedOff ++ (turnedOn ++ []) = turnedOff ++ .began .on [node] ::
      (asks node ((call .on).trace world ()).1 ++
        [.returned .on ((call .on).run world ()).1]) := by
    rw [List.append_nil]
  have shown := restart_turns_on_only_what_is_off rfl
    ⟨by decide +kernel, by decide +kernel⟩ ⟨by decide +kernel, by decide +kernel⟩ rfl goes
    turnedOff .on [node] _ written rfl node (List.mem_singleton_self _)
  rcases shown.1 with ⟨down, first, request, answer, halves, _, ok, shows, inOrder⟩
  cases halves
  exact ⟨_, _, _, _, goes, written, first, request, answer, ok, shows, inOrder⟩

end Restart

end ClusterPower.Campaign
