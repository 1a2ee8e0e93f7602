import ClusterPower.Proofs.Campaign.Restart
import ClusterPower.Proofs.Campaign.Stops
import ClusterPower.Proofs.Coupling.Separation

/-!
Modules are turned off after their boards. A board whose power-off is still under way keeps
its module from being turned off, but a board that has failed does not: no failure of one
target keeps another from its turn.
-/

namespace ClusterPower.Campaign

variable {gateway : Gateway} {settings : Settings} {transition step : Transition}
  {roster : Roster} {target module board : Target} {progress : Progress}

/-! ## Targets that are not refused -/

theorem passed_iff :
    (opening settings transition roster).failures = 0 ↔
      roster.missing = [] ∧ ∀ target ∈ roster.targets, ¬Offends settings transition target := by
  rw [(adds_opening settings transition roster).failures, Nat.zero_add, List.length_eq_zero_iff,
    faultsOf, List.append_eq_nil_iff, List.map_eq_nil_iff, List.map_eq_nil_iff,
    List.filter_eq_nil_iff]
  simp

theorem admission_of_innocent (direct : transition.isRestart = false)
    (innocent : ¬Offends settings transition target) :
    admission settings transition target = .admitted [transition] := by
  unfold Offends at innocent
  simp only [not_or, not_and, not_not] at innocent
  rcases innocent with ⟨ruled, unblocked, listed, _⟩
  have role : blocksRole settings transition target.role = false := by
    rw [Bool.eq_false_iff]
    intro blocked
    exact unblocked (blocksRole_iff.mp blocked).1 (blocksRole_iff.mp blocked).2
  simp [admission, fitAdmission, ruled, role, listed, direct]

/-! ## The order of the stages -/

theorem mem_front_of_takeWhile {Item : Type} [DecidableEq Item] {front behind : List Item}
    {item other : Item} (different : item ≠ other)
    (late : item ∉ (front ++ item :: behind).takeWhile (· ≠ other)) : other ∈ front := by
  by_contra absent
  apply late
  have others : ∀ member ∈ front, decide (member ≠ other) = true := by
    intro member inFront
    exact decide_eq_true fun same => absent (same ▸ inFront)
  rw [List.takeWhile_append_of_pos others, List.takeWhile_cons_of_pos (by simpa using different)]
  exact List.mem_append_cons_self

theorem stage_ahead {kind other : ComponentKind} {front behind : List Stage}
    (split : stages settings = front ++ ⟨step, kind⟩ :: behind)
    (different : kind ≠ other)
    (late : kind ∉ (settings.componentOrder step).takeWhile (· ≠ other)) :
    (⟨step, other⟩ : Stage) ∈ front := by
  unfold stages at split
  generalize settings.options.transitionOrder = order at split
  induction order generalizing front with
  | nil => simp at split
  | cons first order induction =>
      rw [List.flatMap_cons] at split
      rcases Course.cases_append_cons split.symm with ⟨rest, here, _⟩ | ⟨more, rfl, later⟩
      · rcases List.map_eq_append_iff.mp here with ⟨kinds, _, parts, rfl, more⟩
        rcases List.map_eq_cons_iff.mp more with ⟨_, _, rfl, same, _⟩
        cases same
        rw [parts] at late
        exact List.mem_map_of_mem (mem_front_of_takeWhile different late)
      · exact List.mem_append_right _ (induction later)

/-! ## Targets of one kind -/

theorem targets_entriesOf (stage : Stage) (failed : List String) :
    stage.targets (entriesOf settings transition roster) failed =
      roster.targets.filter fun target =>
        stage.includes ⟨target, (admission settings transition target).steps⟩ &&
          !failed.contains target.xname := by
  simp only [Stage.targets, entriesOf, List.filter_map, List.map_map, List.filter_filter]
  exact (List.map_id _).trans (List.filter_congr fun target _ => Bool.and_comm _ _)

theorem names_filter_resolved {resolve : String → Option Target} {names : List String}
    (own : ∀ name ∈ names, ∀ target, resolve name = some target → target.xname = name)
    (keeps : Target → Bool) :
    ((names.filterMap resolve).filter keeps).map (·.xname) =
      names.filter fun name => (resolve name).any keeps := by
  induction names with
  | nil => rfl
  | cons name rest induction =>
      have later := induction fun name listed => own name (List.mem_cons_of_mem _ listed)
      cases found : resolve name with
      | none => simpa [found] using later
      | some target =>
          have same := own name List.mem_cons_self target found
          by_cases kept : keeps target = true
          · simpa [found, kept, same] using later
          · simpa [found, kept] using later

theorem goes_round_began {batch others : List Target} {simulation : Bool} {other : Transition}
    {before behind : List Line} {ending : Option Progress}
    (goes : (round simulation step batch progress).Goes gateway
      (before ++ .began other others :: behind) ending) : before = [] ∧ others = batch := by
  rcases goes_round goes with ⟨nothing, _⟩ | ⟨lines, written, inRound⟩
  · simp at nothing
  · cases before with
    | nil =>
        cases written
        exact ⟨rfl, rfl⟩
    | cons first before =>
        rw [List.cons_append, List.cons.injEq] at written
        cases inRound.belongs (.began other others) (by rw [← written.2]; simp)

theorem fails_false_of_subset {xname : String} {part whole : List Line} (subset : part ⊆ whole)
    (unfailed : fails xname (finals false whole) = false) :
    fails xname (finals false part) = false := by
  rw [Bool.eq_false_iff] at unfailed ⊢
  exact mt (fails_of_subset (finals_subset false subset)) unfailed

/-- The target has been turned off, and was then seen to be off. -/
def WentOff (gateway : Gateway) (step : Transition) (target : Target) (log : List Line) : Prop :=
  ∃ first request answer, first.target = target ∧ first.isOk = true ∧
    gateway.ShowsOff target request answer ∧
    [.returned step first, .asked target request answer].Sublist log

theorem WentOff.mono {part whole : List Line} (went : WentOff gateway step target part)
    (within : part.Sublist whole) : WentOff gateway step target whole := by
  rcases went with ⟨first, request, answer, own, ok, shows, inOrder⟩
  exact ⟨first, request, answer, own, ok, shows, inOrder.trans within⟩

theorem went_off_in_stage {stage : Stage} {entries : List Entry} {batch : List Target}
    {before behind : List Line} {ending : Option Progress}
    (goes : (stage.course false entries progress).Goes gateway
      (before ++ .began step batch :: behind) ending)
    (turnsOff : stage.step.isOff = true) (inBatch : module ∈ batch)
    (inStage : board ∈ stage.targets entries progress.failed)
    (distinct : ((stage.targets entries progress.failed).map (·.xname)).Nodup)
    (ordered : [board.xname, module.xname].Sublist
      ((stage.targets entries progress.failed).map (·.xname)))
    (coupled : Coupling.partner? module.xname = some board.xname)
    (unfailed : fails board.xname (finals false before) = false) :
    WentOff gateway stage.step board before := by
  rcases Course.Goes.of_through goes with ⟨front, names, others, first, middle, second, third, rest,
    here, split, rfl, rfl, finished, opened, _⟩
  rcases goes_round_began opened with ⟨rfl, rfl⟩
  have named := List.contains_iff_mem.mp (List.mem_filter.mp inBatch).2
  rcases Coupling.exists_earlier_round distinct ordered coupled split named with
    ⟨earlier, inFront, inEarlier⟩
  rcases round_of_through finished inFront with ⟨before, _, _, lines, after, inRound, rfl⟩
  have boardIn : board ∈ (stage.targets entries progress.failed).filter
      fun target => earlier.contains target.xname :=
    List.mem_filter.mpr ⟨inStage, List.contains_iff_mem.mpr inEarlier⟩
  have part (line : Line) : lines.Sublist ((before ++ line :: (lines ++ after)) ++ []) := by
    rw [List.append_nil]
    exact ((List.sublist_append_left lines after).cons _).trans (List.sublist_append_right _ _)
  have went : WentOff gateway stage.step board lines :=
    inRound.seen_off turnsOff boardIn (fails_false_of_subset (part _).subset unfailed)
  exact went.mono (part _)

/-! ## Modules and their boards -/

/-- The settings do not take the kind of the module ahead of that of its board, and where the
two are of one kind, the inventory describes every component under its own name. -/
structure TakenAfter (settings : Settings) (known : Inventory) (transition : Transition)
    (module board : Target) : Prop where
  kinds : module.kind ∉ (settings.componentOrder transition).takeWhile (· ≠ board.kind)
  names : module.kind = board.kind →
    ∀ xname component, known.component xname = some component → component.xname = xname

section Coupled

variable {known : Inventory} {targets : List Target}

theorem exists_board (switches : (transition.isOn || transition.isOff) = true)
    (listed : module ∈ targets) (powers : Coupling.powersBoard known module.xname = true)
    (present : (Roster.ofRequest (some known) transition targets).missing = []) :
    ∃ board, Roster.resolve? known targets (Xname.board module.xname) = some board ∧
      board ∈ (Roster.ofRequest (some known) transition targets).targets := by
  cases resolved : Roster.resolve? known targets (Xname.board module.xname) with
  | some board =>
      exact ⟨board, rfl, board_mem_roster switches listed powers resolved⟩
  | none =>
      have arranged := (Coupling.pair_sublist_arrange switches (List.mem_map_of_mem listed)
        powers).subset (Coupling.mem_pair.mpr (Or.inr rfl))
      have missing : Xname.board module.xname ∈
          (Roster.ofRequest (some known) transition targets).missing :=
        List.mem_filter.mpr ⟨arranged, by rw [resolved]; rfl⟩
      rw [present] at missing
      cases missing

theorem xname_of_resolved {xname : String}
    (own : ∀ xname component, known.component xname = some component → component.xname = xname)
    (resolved : Roster.resolve? known targets xname = some target) : target.xname = xname := by
  rcases Option.or_eq_some_iff.mp resolved with described | ⟨_, found⟩
  · simpa using List.find?_some described
  · rcases Option.map_eq_some_iff.mp found with ⟨component, stored, rfl⟩
    exact own xname component stored

theorem names_of_stage
    (own : ∀ xname component, known.component xname = some component → component.xname = xname)
    (stage : Stage) (failed : List String) :
    ∃ keeps, (stage.targets (entriesOf settings transition
        (Roster.ofRequest (some known) transition targets)) failed).map (·.xname) =
      (Coupling.arrange known transition (targets.map (·.xname))).filter keeps := by
  rw [targets_entriesOf]
  exact ⟨_, names_filter_resolved (fun name _ target resolved =>
    xname_of_resolved own resolved) _⟩

section Taken

variable (listed : module ∈ targets)
  (powers : Coupling.powersBoard known module.xname = true)
  (resolved : Roster.resolve? known targets (Xname.board module.xname) = some board)

include listed powers resolved

theorem went_off_before_own_round {stage : Stage} {batch : List Target}
    {done behind : List Line} {ending : Option Progress}
    (goes : (stage.course false (entriesOf settings transition
        (Roster.ofRequest (some known) transition targets)) progress).Goes
      gateway (done ++ .began step batch :: behind) ending)
    (own : ∀ xname component, known.component xname = some component → component.xname = xname)
    (turnsOff : transition.isOff = true) (turned : stage.step = transition)
    (inBatch : module ∈ batch)
    (moduleIn : module ∈ stage.targets (entriesOf settings transition
      (Roster.ofRequest (some known) transition targets)) progress.failed)
    (boardIn : board ∈ stage.targets (entriesOf settings transition
      (Roster.ofRequest (some known) transition targets)) progress.failed)
    (unfailed : fails board.xname (finals false done) = false) :
    WentOff gateway transition board done := by
  have name : board.xname = Xname.board module.xname := xname_of_resolved own resolved
  have ordered := Coupling.pair_sublist_arrange (by rw [turnsOff, Bool.or_true])
    (List.mem_map_of_mem listed) powers
  rw [Coupling.pair_of_isOff turnsOff, ← name] at ordered
  rcases names_of_stage own stage progress.failed with ⟨keeps, names⟩
  have kept : ∀ name ∈ [board.xname, module.xname], keeps name = true := by
    intro name member
    have inNames : name ∈ (Coupling.arrange known transition
        (targets.map (·.xname))).filter keeps := by
      rw [← names]
      rcases List.mem_cons.mp member with rfl | member
      · exact List.mem_map_of_mem boardIn
      · rw [List.mem_singleton.mp member]
        exact List.mem_map_of_mem moduleIn
    exact (List.mem_filter.mp inNames).2
  have went := went_off_in_stage goes (by rw [turned, turnsOff]) inBatch boardIn
    (by rw [names]; exact (Coupling.nodup_arrange _ _ _).filter _)
    (by rw [names]; exact (Coupling.sublist_filter_iff kept).mpr ordered)
    (by rw [name]; exact Coupling.partner?_module (Coupling.powersBoard_iff.mp powers).1) unfailed
  rwa [turned] at went

theorem went_off_before_round {batch : List Target} {done : List Line} {ending : Option Progress}
    (goes : (Course.through (Stage.course false (entriesOf settings transition
        (Roster.ofRequest (some known) transition targets))) (stages settings) progress).Goes
      gateway (done ++ [.began step batch]) ending)
    (fresh : progress.failed = []) (turnsOff : transition.isOff = true)
    (innocent : ∀ target ∈ (Roster.ofRequest (some known) transition targets).targets,
      ¬Offends settings transition target)
    (boardIn : board ∈ (Roster.ofRequest (some known) transition targets).targets)
    (taken : TakenAfter settings known transition module board) (inBatch : module ∈ batch)
    (unfailed : fails board.xname (finals false done) = false) :
    WentOff gateway transition board done := by
  have steps {target : Target}
      (listed : target ∈ (Roster.ofRequest (some known) transition targets).targets) :
      (admission settings transition target).steps = [transition] := by
    rw [admission_of_innocent (Transition.isRestart_of_isOff turnsOff) (innocent target listed)]
    rfl
  have boardSteps : transition ∈ (admission settings transition board).steps := by
    rw [steps boardIn]
    exact List.mem_singleton_self _
  rcases Course.Goes.of_through goes with ⟨front, stage, others, first, middle, second, third, rest,
    _, order, rfl, _, finished, here, _⟩
  rcases cases_line_of_stage here with ⟨_, _, _, _, part, ⟨began, _⟩ | ⟨belongs, _⟩⟩
  swap
  · cases belongs
  cases began
  have inStage := mem_targets_of_entries.mp (part module inBatch)
  have turned : stage.step = transition := by
    have inSteps := inStage.2.1
    rwa [steps inStage.1, List.mem_singleton] at inSteps
  have early := fails_false_of_subset (List.subset_append_left first second) unfailed
  by_cases passed : (⟨transition, board.kind⟩ : Stage) ∈ front
  · have went : WentOff gateway transition board first :=
      seen_off_of_passed finished fresh turnsOff passed boardIn boardSteps early
    exact went.mono (List.sublist_append_left first second)
  -- The two are of one kind, so that the rounds of the stage tell them apart.
  have same : module.kind = board.kind := by
    by_contra different
    have here : stage = ⟨transition, module.kind⟩ := by
      cases stage
      cases turned
      rw [inStage.2.2.1]
    rw [here] at order
    exact passed (stage_ahead order different taken.kinds)
  have going : board.xname ∉ middle.failed := by
    rw [mem_failed_of_stages finished, fresh, early]
    simp
  have boardInStage := mem_targets_of_entries.mpr
    ⟨boardIn, by rwa [turned], same.symm.trans inStage.2.2.1, going⟩
  have went := went_off_before_own_round listed powers resolved here (taken.names same) turnsOff
    turned inBatch (part module inBatch) boardInStage
    (fails_false_of_subset (List.subset_append_right first second) unfailed)
  exact went.mono (List.sublist_append_right first second)

end Taken

/-- While a request is turned off with an inventory at hand, nothing is asked of a module that
powers its board before the board has been turned off and was then seen to be off, or an outcome
under its name has failed. Settings that take the kind of the module first are excepted, and
so is an inventory that describes a component of the module's kind under another name. -/
theorem module_asked_after_board_is_off {log : List Line} {ending : Option Report}
    (real : gateway.simulation = false) (turnsOff : transition.isOff = true)
    (unfolds : (course gateway.settings gateway.simulation (some known) transition targets).Unfolds
      gateway false log ending) :
    ∀ module ∈ targets, Xname.kind module.xname = .routerModule →
      (known.cabinetClass module.xname = some .mountain ∨
        known.cabinetClass module.xname = some .hill) →
      ∀ before request answer behind, log = before ++ .asked module request answer :: behind →
        ∃ board, Roster.resolve? known targets (Xname.board module.xname) = some board ∧
          board ∈ (Roster.ofRequest (some known) transition targets).targets ∧
          (TakenAfter gateway.settings known transition module board →
            (∃ first request answer, first.target = board ∧ first.isOk = true ∧
              gateway.ShowsOff board request answer ∧
              [.returned transition first, .asked board request answer].Sublist before) ∨
            fails board.xname (finals false before) = true) := by
  intro module listed router cabinet before request answer behind split
  have powers := Coupling.powersBoard_iff.mpr ⟨router, cabinet⟩
  rcases unfolds.began_before_asked (attends_course _ _ _ _ _ []) split with
    impossible | ⟨done, step, batch, within, rfl, inBatch, goes⟩
  · cases impossible
  rcases goes_stages goes with ⟨nothing, _⟩ | ⟨passed, _, stages, _⟩
  · simp at nothing
  rcases passed_iff.mp passed with ⟨present, innocent⟩
  rcases exists_board (by rw [turnsOff, Bool.or_true]) listed powers present with
    ⟨board, resolved, boardIn⟩
  refine ⟨board, resolved, boardIn, fun taken => ?_⟩
  rw [real] at stages
  cases failed : fails board.xname (finals false done) with
  | true =>
      exact Or.inr (fails_of_subset (finals_subset false (List.subset_append_left _ _)) failed)
  | false =>
      have went := went_off_before_round listed powers resolved stages rfl turnsOff innocent
        boardIn taken inBatch failed
      exact Or.inl (went.mono (List.sublist_append_left _ _))

theorem module_turned_off_after_board :
    let module : Target :=
      { xname := "x1c0r1", kind := .routerModule, resource := .chassis, host := "a"
        resetTokens := ["Off"] }
    let board : Target :=
      { xname := "x1c0r1e0", kind := .networkBoard, resource := .chassis, host := "b"
        resetTokens := ["Off"] }
    let known : Inventory := ⟨fun _ => some .mountain, fun _ => none⟩
    let gateway : Gateway := ⟨{}, false, "https"⟩
    ∃ log report before request answer behind,
      (course {} false (some known) .off [module, board]).Unfolds gateway false log
        (some report) ∧
      log = before ++ .asked module request answer :: behind ∧
      ∃ first request answer, first.target = board ∧ first.isOk = true ∧
        gateway.ShowsOff board request answer ∧
        [.returned .off first, .asked board request answer].Sublist before := by
  intro module board known gateway
  let roster := Roster.ofRequest (some known) .off [module, board]
  let entries := entriesOf {} .off roster
  let answered := Text.utf8 "\x7b\"PowerState\":\"Off\"\x7d"
  let world : Conversation.World Unit := fun _ state => (.reply ⟨200, [], answered⟩, state)
  have distinct : ([module, board].map (·.xname)).Nodup := by decide +kernel
  have inRoster {target : Target} (listed : target ∈ [module, board]) : target ∈ roster.targets :=
    mem_roster_of_mem distinct listed
  have inStage {target : Target} (listed : target ∈ [module, board])
      (one : ((Stage.mk .off target.kind).targets entries []).length = 1)
      (inSteps : .off ∈ (admission {} .off target).steps) :
      (Stage.mk .off target.kind).targets entries [] = [target] :=
    targets_eq_singleton one
      (mem_targets_of_entries.mpr ⟨inRoster listed, inSteps, rfl, List.not_mem_nil⟩)
  have split : stages {} = (stages {}).take 2 ++ (⟨.off, .networkBoard⟩ ::
      ([] ++ (⟨.off, .routerModule⟩ :: (stages {}).drop 4))) := by
    decide +kernel
  let start : Progress := { report := opening {} .off roster }
  let call (target : Target) := gateway.call (.change .off) target
  let wait (target : Target) := gateway.awaitOff target gateway.settings.options.offPause
    gateway.settings.options.offRetries
  let called (target : Target) : List Line :=
    asks target ((call target).trace world ()).1 ++ [.returned .off ((call target).run world ()).1]
  let waited (target : Target) : List Line :=
    asks target ((wait target).trace world ()).1 ++ [.settled ((wait target).run world ()).1]
  let lines (target : Target) : List Line :=
    .began .off [target] :: (called target ++ waited target)
  let middle := start.recordAll [((wait board).run world ()).1]
  let ending := middle.recordAll [((wait module).run world ()).1]
  have going : middle.failed = [] := by decide +kernel
  have firstStage : ((Stage.mk .off .networkBoard).course false entries start).Goes gateway
      (lines board) (some middle) :=
    goes_stage_alone (@inStage board (by simp) (by decide +kernel) (by decide +kernel))
      (goes_round_awaited world () .off board start rfl (by decide +kernel))
  have secondStage : ((Stage.mk .off .routerModule).course false entries middle).Goes gateway
      (lines module) (some ending) :=
    goes_stage_alone
      (by rw [going]; exact @inStage module (by simp) (by decide +kernel) (by decide +kernel))
      (goes_round_awaited world () .off module middle rfl (by decide +kernel))
  have all : (Course.through (Stage.course false entries) (stages {}) start).Goes gateway
      (lines board ++ (lines module ++ [])) (some ending) := by
    rw [split]
    exact goes_next_stage (by decide +kernel) firstStage
      (goes_next_stage nofun secondStage (goes_stages_idle (by decide +kernel)))
  have goes := goes_of_stages (by decide +kernel) all
  let request := gateway.jsonRequest module .post module.actionPath
    (Redfish.body (Redfish.resetRequest "Off"))
  have events : ((call module).trace world ()).1 =
      [.asked request (.reply ⟨200, [], answered⟩)] := by
    decide +kernel
  have written : lines board ++ (lines module ++ []) = (lines board ++ [.began .off [module]]) ++
      .asked module request (.reply ⟨200, [], answered⟩) ::
        ([.returned .off ((call module).run world ()).1] ++ waited module) := by
    simp only [lines, called, events, asks, List.flatMap_singleton, List.append_nil,
      List.append_assoc, List.cons_append, List.nil_append]
  rcases module_asked_after_board_is_off rfl rfl goes.unfolds module (by simp) (by decide +kernel)
    (Or.inl rfl) _ _ _ _ written with ⟨other, resolved, _, settled⟩
  have described : Roster.resolve? known [module, board] (Xname.board module.xname) =
      some board := by
    have name : Xname.board module.xname = board.xname := by decide +kernel
    rw [name, Roster.resolve?, described?_eq_some distinct (by simp)]
    rfl
  rw [described, Option.some.injEq] at resolved
  subst resolved
  have taken : TakenAfter {} known .off module board :=
    ⟨by decide +kernel, fun same => absurd same (by decide)⟩
  have unfailed : fails board.xname (finals false (lines board ++ [.began .off [module]])) =
      false := by
    decide +kernel
  rcases settled taken with shown | failed
  · exact ⟨_, _, _, _, _, _, goes.unfolds, written, shown⟩
  · rw [unfailed] at failed
    cases failed

end Coupled

/-- Three ways in which a module is sent its change although nobody knows its board to be off:
nothing answers, not even the board; the settings take modules first; or the board is of the kind
of the module and is described under another name, so that the two share a round. -/
theorem module_turned_off_before_board :
    let module : Target :=
      { xname := "x1c0r1", kind := .routerModule, resource := .chassis, host := "a"
        resetTokens := ["Off"] }
    let board : Target :=
      { xname := "x1c0r1e0", kind := .networkBoard, resource := .chassis, host := "b"
        resetTokens := ["Off"] }
    let known : Inventory := ⟨fun _ => some .mountain, fun _ => none⟩
    let misnamed : Inventory := ⟨fun _ => some .mountain, fun _ =>
      some { board with xname := "x1c0r2e0", kind := .routerModule }⟩
    let modulesFirst : Settings :=
      { rules := .ofList [("Off",
          { componentOrder := [.routerModule, .networkBoard], resetTokens := ["Off"] })] }
    let isOff : Http.Answer := .reply ⟨200, [], Text.utf8 "\x7b\"PowerState\":\"Off\"\x7d"⟩
    let asked (settings : Settings) (known : Inventory) (targets : List Target)
        (answer : Http.Answer) :=
      ((run ⟨settings, false, "https"⟩ (Pool.create 1 1).start (some known) .off targets).trace
        (fun _ (state : Unit) => (answer, state)) ()).1.filterMap fun
          | .asked request _ => some (request.method, request.address)
          | .paused _ => none
    asked {} known [module, board] .unreachable =
      [(.post, "https://b"), (.post, "https://a")] ∧
    asked modulesFirst known [module, board] isOff =
      [(.post, "https://a"), (.get, "https://a"), (.post, "https://b"), (.get, "https://b")] ∧
    asked {} misnamed [module] isOff =
      [(.post, "https://b"), (.post, "https://a"), (.get, "https://b"), (.get, "https://a")] := by
  decide +kernel

end ClusterPower.Campaign
