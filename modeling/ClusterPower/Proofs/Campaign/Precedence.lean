import ClusterPower.Proofs.Campaign.Stages
import ClusterPower.Proofs.Xname

/-!
Who is switched before whom. No request is sent in a round before every target of all rounds
before it has its final outcome. So a board that is powered by its module is switched on after
the module and off before it.
-/

namespace ClusterPower.Campaign

variable {gateway : Gateway} {settings : Settings} {simulation : Bool} {transition : Transition}
  {roster : Roster} {target : Target} {progress : Progress} {before behind : List Line}
  {request : Http.Request} {answer : Http.Answer}

/-! ## Requests and rounds -/

section Stages

variable {stages : List Stage} {ending : Option Progress}

theorem whole_rounds_before_asked
    (goes : (Course.through (Stage.course simulation (entriesOf settings transition roster))
      stages progress).Goes gateway (before ++ .asked target request answer :: behind) ending) :
    ∃ done step batch lines, before = done ++ .began step batch :: lines ∧
      Complete simulation done ∧ (∀ line ∈ lines, line.isBeginning = false) ∧
      target ∈ batch := by
  rcases Course.Goes.of_through goes with
    ⟨_, stage, _, first, _, second, _, _, _, _, rfl, rfl, finished, here, _⟩
  rcases cases_line_of_stage here with
    ⟨done, batch, lines, complete, _, ⟨began, _⟩ | ⟨belongs, rfl, inside⟩⟩
  · cases began
  · cases belongs with
    | asked member =>
        exact ⟨first ++ done, stage.step, batch, lines, (List.append_assoc _ _ _).symm,
          (records_stages finished).complete.append complete, inside, member⟩

theorem not_mem_behind {Item : Type} {related : Item → Item → Prop} {front behind : List Item}
    {item other : Item} (ordered : (front ++ item :: behind).Pairwise related)
    (wrong : ¬related item other) : other ∉ behind := by
  intro member
  have later := (List.pairwise_cons.mp (List.pairwise_append.mp ordered).2.1).1
  exact wrong (later other member)

theorem settled_before_asked {first second : Target}
    (goes : (Course.through (Stage.course simulation (entriesOf settings transition roster))
      stages progress).Goes gateway (before ++ .asked second request answer :: behind) ending)
    (fresh : progress.failed = []) (listed : first ∈ roster.targets)
    (firstSteps : (admission settings transition first).steps = [transition])
    (secondSteps : (admission settings transition second).steps = [transition])
    (apart : first.kind ≠ second.kind) (place : (⟨transition, first.kind⟩ : Stage) ∈ stages)
    (ordered : stages.Pairwise fun earlier later =>
      ¬(earlier = ⟨transition, second.kind⟩ ∧ later = ⟨transition, first.kind⟩)) :
    IsSettled simulation before first ∧
      ∀ request answer, .asked first request answer ∉ behind := by
  -- The stage of a target is told by its kind, since it has only one step.
  have stageOf {target : Target} {stage : Stage} {failed : List String}
      (steps : (admission settings transition target).steps = [transition])
      (member : target ∈ stage.targets (entriesOf settings transition roster) failed) :
      stage = ⟨transition, target.kind⟩ := by
    have inStage := mem_targets_of_entries.mp member
    rw [steps, List.mem_singleton] at inStage
    cases stage
    cases inStage.2.1
    cases inStage.2.2.1
    rfl
  rcases Course.Goes.of_through goes with
    ⟨front, stage, others, done, middle, within, third, rest, _, rfl, rfl, rfl, finished, here,
      later⟩
  have same : stage = ⟨transition, second.kind⟩ :=
    stageOf secondSteps (mem_targets_of_asked here List.mem_append_cons_self)
  have absent : (⟨transition, first.kind⟩ : Stage) ∉ others :=
    not_mem_behind ordered fun related => related ⟨same, rfl⟩
  have different : (⟨transition, first.kind⟩ : Stage) ≠ stage := by
    rw [same]
    intro equal
    cases (Stage.mk.injEq _ _ _ _).mp equal with
    | intro _ kinds => exact apart kinds
  have passed : (⟨transition, first.kind⟩ : Stage) ∈ front := by
    rcases List.mem_append.mp place with member | member
    · exact member
    · exact absurd ((List.mem_cons.mp member).resolve_left different) absent
  constructor
  · have settled := isSettled_of_passed finished fresh passed listed
      (by rw [firstSteps]; exact List.mem_singleton_self _) rfl
    exact settled.mono (List.subset_append_left _ _)
  · intro request answer asked
    rcases List.mem_append.mp asked with asked | asked
    · have inStage := mem_targets_of_asked here
        (List.mem_append_right within (List.mem_cons_of_mem _ asked))
      exact different (stageOf firstSteps inStage).symm
    · rcases later with rfl | ⟨next, later⟩
      · cases asked
      · rcases stage_of_asked later asked with ⟨stage, member, failed, inStage⟩
        rw [stageOf firstSteps inStage] at member
        exact absent member

end Stages

/-! ## The built-in settings -/

theorem admission_builtIn (switches : (transition.isOn || transition.isOff) = true)
    (known : target.kind ∈ onOrder) : admission {} transition target = .admitted [transition] := by
  have order : Settings.componentOrder {} transition = onOrder ∨
      Settings.componentOrder {} transition = onOrder.reverse := by
    cases transition with
    | on | forceOn => exact Or.inl (by decide +kernel)
    | off | forceOff => exact Or.inr (by decide +kernel)
    | restart | forceRestart | nonMaskableInterrupt => cases switches
  have listed : target.kind ∈ Settings.componentOrder {} transition := by
    rcases order with order | order
    · rwa [order]
    · rwa [order, List.mem_reverse]
  have unblocked : Settings.blockedRoles {} transition = [] := by
    cases transition <;> decide +kernel
  have direct : transition.isRestart = false := by
    cases transition with
    | on | off | forceOn | forceOff | nonMaskableInterrupt => rfl
    | restart | forceRestart => cases switches
  simp [admission, blocksRole, fitAdmission, List.ne_nil_of_mem listed, listed, unblocked, direct]

theorem router_stage_first (on : transition.isOn = true) :
    (⟨transition, .routerModule⟩ : Stage) ∈ stages {} ∧
      (stages {}).Pairwise fun earlier later =>
        ¬(earlier = ⟨transition, .networkBoard⟩ ∧ later = ⟨transition, .routerModule⟩) := by
  cases transition with
  | on | forceOn => decide +kernel
  | off | forceOff | restart | forceRestart | nonMaskableInterrupt => cases on

theorem board_stage_first (off : transition.isOff = true) :
    (⟨transition, .networkBoard⟩ : Stage) ∈ stages {} ∧
      (stages {}).Pairwise fun earlier later =>
        ¬(earlier = ⟨transition, .routerModule⟩ ∧ later = ⟨transition, .networkBoard⟩) := by
  cases transition with
  | off | forceOff => decide +kernel
  | on | forceOn | restart | forceRestart | nonMaskableInterrupt => cases off

/-! ## Modules and their boards -/

theorem described?_eq_some {targets : List Target} (distinct : (targets.map (·.xname)).Nodup)
    (listed : target ∈ targets) : Roster.described? targets target.xname = some target := by
  rcases exists_described listed with ⟨other, member, described, same⟩
  rw [described, List.inj_on_of_nodup_map distinct member listed same]

section Coupled

variable {known : Inventory} {targets : List Target} {module board : Target}

theorem mem_roster_of_mem (distinct : (targets.map (·.xname)).Nodup) (listed : module ∈ targets) :
    module ∈ (Roster.ofRequest (some known) transition targets).targets := by
  rcases exists_mem_roster (some known) transition listed with ⟨other, inRoster, member, same⟩
  rwa [List.inj_on_of_nodup_map distinct member listed same] at inRoster

theorem board_mem_roster (switches : (transition.isOn || transition.isOff) = true)
    (listed : module ∈ targets) (powers : Coupling.powersBoard known module.xname = true)
    (described : Roster.resolve? known targets (Xname.board module.xname) = some board) :
    board ∈ (Roster.ofRequest (some known) transition targets).targets := by
  apply List.mem_filterMap.mpr
  refine ⟨Xname.board module.xname, ?_, described⟩
  exact (Coupling.mem_arrange known transition _).mpr
    (Or.inr ⟨switches, module.xname, List.mem_map_of_mem listed, powers, rfl⟩)

/-- With the built-in settings, no request is sent before every round that began before the
round of its target has come to its final outcomes. A module that powers its board brings it
into the campaign. While the two are switched on, nothing is asked of the board before the
module has its final outcome, and while they are switched off, nothing of the module before the
board has its own. -/
theorem coupled_targets_wait_for_each_other {log : List Line} {ending : Option Report}
    (builtIn : gateway.settings = {}) (distinct : (targets.map (·.xname)).Nodup)
    (goes : (course gateway.settings gateway.simulation (some known) transition targets).Goes
      gateway log ending) :
    let roster := Roster.ofRequest (some known) transition targets
    (∀ before target request answer behind,
      log = before ++ .asked target request answer :: behind →
        ∃ done step batch lines, before = done ++ .began step batch :: lines ∧
          Complete gateway.simulation done ∧ (∀ line ∈ lines, line.isBeginning = false) ∧
          target ∈ batch) ∧
    ∀ module ∈ targets, module.kind = .routerModule →
      Coupling.powersBoard known module.xname = true →
      ∀ board, Roster.resolve? known targets (Xname.board module.xname) = some board →
        board.xname = Xname.board module.xname → board.kind = .networkBoard →
        (opening gateway.settings transition roster).failures = 0 →
        ((transition.isOn || transition.isOff) = true →
          board ∈ roster.targets ∧
          admission gateway.settings transition board = .admitted [transition] ∧
          (ending.isSome = true → IsSettled gateway.simulation log board)) ∧
        (transition.isOn = true → ∀ before request answer behind,
          log = before ++ .asked board request answer :: behind →
            IsSettled gateway.simulation before module ∧
              ∀ request answer, .asked module request answer ∉ behind) ∧
        (transition.isOff = true → ∀ before request answer behind,
          log = before ++ .asked module request answer :: behind →
            IsSettled gateway.simulation before board ∧
              ∀ request answer, .asked board request answer ∉ behind) := by
  intro roster
  rcases goes_stages goes with ⟨rfl, offended⟩ | ⟨_, last, within, finished⟩
  · refine ⟨fun before target request answer behind split => by simp at split, ?_⟩
    intro module _ _ _ board _ _ _ passed
    exact absurd passed (Nat.ne_of_gt offended)
  refine ⟨?_, ?_⟩
  · rintro before target request answer behind rfl
    exact whole_rounds_before_asked within
  intro module listed router powers board described _ network _
  have moduleIn : module ∈ roster.targets := mem_roster_of_mem distinct listed
  have kinds : module.kind ≠ board.kind := by rw [router, network]; decide
  have moduleSteps (switches : (transition.isOn || transition.isOff) = true) :
      admission gateway.settings transition module = .admitted [transition] := by
    rw [builtIn]
    exact admission_builtIn switches (by rw [router]; decide)
  have boardSteps (switches : (transition.isOn || transition.isOff) = true) :
      admission gateway.settings transition board = .admitted [transition] := by
    rw [builtIn]
    exact admission_builtIn switches (by rw [network]; decide)
  refine ⟨fun switches => ?_, fun on => ?_, fun off => ?_⟩
  · have boardIn : board ∈ roster.targets := board_mem_roster switches listed powers described
    refine ⟨boardIn, boardSteps switches, fun ended => ?_⟩
    rcases Option.isSome_iff_exists.mp ended with ⟨report, ended⟩
    rcases finished report ended with ⟨progress, rfl, _⟩
    have place : (⟨transition, .networkBoard⟩ : Stage) ∈ stages gateway.settings := by
      rw [builtIn]
      cases transition with
      | on | off | forceOn | forceOff => decide +kernel
      | restart | forceRestart | nonMaskableInterrupt => cases switches
    exact isSettled_of_passed within rfl place boardIn
      (by rw [boardSteps switches]; exact List.mem_singleton_self _) network
  · rintro before request answer behind rfl
    have switches : (transition.isOn || transition.isOff) = true := by rw [on]; rfl
    have order := router_stage_first on
    rw [← builtIn, ← router, ← network] at order
    exact settled_before_asked within rfl moduleIn (by rw [moduleSteps switches]; rfl)
      (by rw [boardSteps switches]; rfl) kinds order.1 order.2
  · rintro before request answer behind rfl
    have switches : (transition.isOn || transition.isOff) = true := by
      rw [off, Bool.or_true]
    have order := board_stage_first off
    rw [← builtIn, ← router, ← network] at order
    exact settled_before_asked within rfl
      (board_mem_roster switches listed powers described) (by rw [boardSteps switches]; rfl)
      (by rw [moduleSteps switches]; rfl) kinds.symm order.1 order.2

end Coupled

theorem network_board_waits_for_its_module :
    let module : Target :=
      { xname := "x1c0r1", kind := .routerModule, host := "a", resetTokens := ["On"] }
    let board : Target :=
      { xname := "x1c0r1e0", kind := .networkBoard, host := "b", resetTokens := ["On"] }
    let known : Inventory := ⟨fun _ => some .mountain, fun _ => none⟩
    ∃ log report before request answer behind,
      (course {} false (some known) .on [board, module]).Goes ⟨{}, false, "https"⟩ log
        (some report) ∧
      log = before ++ .asked board request answer :: behind ∧ IsSettled false before module := by
  intro module board known
  let gateway : Gateway := ⟨{}, false, "https"⟩
  let roster := Roster.ofRequest (some known) .on [board, module]
  let entries := entriesOf {} .on roster
  let world : Conversation.World Unit := fun _ state => (.reply ⟨200, [], []⟩, state)
  have distinct : ([board, module].map (·.xname)).Nodup := by decide +kernel
  have inRoster {target : Target} (listed : target ∈ [board, module]) : target ∈ roster.targets :=
    mem_roster_of_mem distinct listed
  have first : (Stage.mk .on .routerModule).targets entries [] = [module] := by
    apply targets_eq_singleton (by decide +kernel)
    exact mem_targets_of_entries.mpr ⟨inRoster (by simp), by decide +kernel, rfl, by simp⟩
  have second : (Stage.mk .on .networkBoard).targets entries [] = [board] := by
    apply targets_eq_singleton (by decide +kernel)
    exact mem_targets_of_entries.mpr ⟨inRoster (by simp), by decide +kernel, rfl, by simp⟩
  have split : stages {} = (stages {}).take 19 ++ (⟨.on, .routerModule⟩ ::
      ([] ++ (⟨.on, .networkBoard⟩ :: (stages {}).drop 21))) := by
    decide +kernel
  let start : Progress := { report := opening {} .on roster }
  let outcome (target : Target) := ((gateway.call (.change .on) target).run world ()).1
  let lines (target : Target) : List Line :=
    .began .on [target] :: (asks target ((gateway.call (.change .on) target).trace world ()).1 ++
      [.returned .on (outcome target)])
  let middle := start.recordAll [outcome module]
  let ending := middle.recordAll [outcome board]
  have going : middle.failed = [] := by decide +kernel
  have round (target : Target) (progress : Progress) :
      (round false .on [target] progress).Goes gateway (lines target)
        (some (progress.recordAll [outcome target])) :=
    goes_round_alone world () .on target progress rfl
  have firstStage : ((Stage.mk .on .routerModule).course false entries start).Goes gateway
      (lines module) (some middle) := goes_stage_alone first (round module start)
  have secondStage : ((Stage.mk .on .networkBoard).course false entries middle).Goes gateway
      (lines board) (some ending) :=
    goes_stage_alone (by rw [going]; exact second) (round board middle)
  have all : (Course.through (Stage.course false entries) (stages {}) start).Goes gateway
      (lines module ++ (lines board ++ [])) (some ending) := by
    rw [split]
    exact goes_next_stage (by decide +kernel) firstStage
      (goes_next_stage nofun secondStage (goes_stages_idle (by decide +kernel)))
  have passed : (opening {} .on roster).failures = 0 := by decide +kernel
  have goes := goes_of_stages passed all
  have described : Roster.resolve? known [board, module] (Xname.board module.xname) =
      some board := by
    have name : Xname.board module.xname = board.xname := by decide +kernel
    rw [name, Roster.resolve?, described?_eq_some distinct (by simp)]
    rfl
  have coupled := (coupled_targets_wait_for_each_other rfl distinct goes).2 module (by simp) rfl
    (by decide +kernel) board described (by decide +kernel) rfl passed
  let request := gateway.jsonRequest board .post board.actionPath
    (Redfish.body (Redfish.resetRequest "On"))
  have events : ((gateway.call (.change .on) board).trace world ()).1 =
      [.asked request (.reply ⟨200, [], []⟩)] := by
    decide +kernel
  have written : lines module ++ (lines board ++ []) =
      (lines module ++ [.began .on [board]]) ++
        .asked board request (.reply ⟨200, [], []⟩) :: [.returned .on (outcome board)] := by
    simp only [lines, events, asks, List.flatMap_singleton, List.nil_append, List.append_nil,
      List.append_assoc, List.cons_append]
  exact ⟨_, _, _, _, _, _, goes, written, (coupled.2.1 rfl _ _ _ _ written).1⟩

end ClusterPower.Campaign
