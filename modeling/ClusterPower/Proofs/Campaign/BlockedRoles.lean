import ClusterPower.Proofs.Campaign.Restart
import ClusterPower.Proofs.Campaign.Stops

/-!
Roles that a transition is refused to. The check is made for the transition that was requested,
so it covers whatever is sent under that name. The halves of an emulated restart are sent without
a check of their own.
-/

namespace ClusterPower.Campaign

open Conversation

variable {gateway : Gateway} {settings : Settings} {simulation : Bool}
  {transition step : Transition} {roster : Roster} {target : Target}

/-! ## Steps that a target goes through -/

/-- A restart that the target cannot do by itself is to be carried out as two transitions. -/
def Emulates (settings : Settings) (transition : Transition) (target : Target) : Prop :=
  transition.isRestart = true ∧ settings.options.restartFallback = .emulate ∧
    (settings.resetToken transition target.resetTokens).isOk = false

/-- A target that is fit to take part goes through the transition itself or, if it cannot restart
itself, through the halves. -/
theorem cases_fitAdmission {steps : List Transition}
    (admitted : fitAdmission settings transition target = .admitted steps) :
    (¬Emulates settings transition target ∧ steps = [transition]) ∨
      (Emulates settings transition target ∧ steps = emulated transition) := by
  unfold fitAdmission at admitted
  split at admitted
  · next restarts =>
    split at admitted
    · next token found =>
      cases admitted
      refine Or.inl ⟨fun emulates => ?_, rfl⟩
      have unable := emulates.2.2
      rw [found] at unable
      cases unable
    · next error found =>
      split at admitted
      · next fallback =>
        cases admitted
        exact Or.inr ⟨⟨restarts, fallback, by rw [found]; rfl⟩, rfl⟩
      · cases admitted
      · cases admitted
  · next direct =>
    cases admitted
    exact Or.inl ⟨fun emulates => direct emulates.1, rfl⟩

/-- What a step of a target has to do with the roles that are blocked. -/
structure Permitted (settings : Settings) (transition step : Transition) (target : Target) :
    Prop where
  requested : blocksRole settings transition target.role = false
  blocked : blocksRole settings step target.role = true ↔
    Emulates settings transition target ∧ step ∈ emulated transition ∧
      target.role ≠ "" ∧ target.role ∈ settings.blockedRoles step

theorem permitted_of_mem_steps
    (member : step ∈ (admission settings transition target).steps) :
    Permitted settings transition step target := by
  have admitted := admitted_of_mem_steps member
  generalize (admission settings transition target).steps = steps at admitted member
  unfold admission at admitted
  dsimp only at admitted
  split at admitted
  · cases admitted
  split at admitted
  · cases admitted
  · next free =>
    have free : blocksRole settings transition target.role = false := by simpa using free
    split at admitted
    · cases admitted
    · refine ⟨free, ?_⟩
      rcases cases_fitAdmission admitted with ⟨direct, rfl⟩ | ⟨emulates, rfl⟩
      · rw [List.mem_singleton.mp member, free]
        constructor
        · intro blocked
          cases blocked
        · intro half
          exact absurd half.1 direct
      · rw [blocksRole_iff]
        constructor
        · intro blocked
          exact ⟨emulates, member, blocked⟩
        · intro half
          exact half.2.2

/-! ## Steps that a course sends -/

namespace Course

variable {Result Next Item : Type} {allowed : Transition → List Target → Prop}

/-- Whatever the outcomes are, only allowed steps are sent. -/
def OnlySends (allowed : Transition → List Target → Prop) : Course Result → Prop
  | .done _ => True
  | .change step targets next =>
    allowed step targets ∧ ∀ outcomes, OnlySends allowed (next outcomes)
  | .awaitOff _ next => ∀ outcomes, OnlySends allowed (next outcomes)

theorem onlySends_bind {course : Course Result} {following : Result → Course Next}
    (first : course.OnlySends allowed) (second : ∀ result, (following result).OnlySends allowed) :
    (course.bind following).OnlySends allowed := by
  induction course with
  | done result => exact second result
  | change step targets next induction =>
      exact ⟨first.1, fun outcomes => induction outcomes (first.2 outcomes)⟩
  | awaitOff targets next induction => exact fun outcomes => induction outcomes (first outcomes)

theorem onlySends_through {body : Item → Result → Course Result}
    (each : ∀ item result, (body item result).OnlySends allowed) (items : List Item)
    (result : Result) : (through body items result).OnlySends allowed := by
  induction items generalizing result with
  | nil => trivial
  | cons item items induction => exact onlySends_bind (each item result) induction

theorem Unfolds.allowed_of_began {course : Course Result} {stopped : Bool} {log : List Line}
    {ending : Option Result} {batch : List Target}
    (unfolds : course.Unfolds gateway stopped log ending) (only : course.OnlySends allowed)
    (began : .began step batch ∈ log) : allowed step batch := by
  have unsent {owner : Nat → Option Unit} {sent : Transition}
      {remarks : List (FanOut.Remark Unit)} :
      .began step batch ∉ remarks.filterMap (Line.ofRemark? owner sent) := by
    intro member
    rcases cases_ofRemarks member with ⟨_, _, _, same⟩ | ⟨_, same⟩
    · cases same
    · cases same
  have unwaited {targets : List Target} {lines : List Line} {waiting : List Wait}
      (waits : Waits gateway targets lines waiting) : .began step batch ∉ lines := by
    intro member
    rcases waits.cases_line member with ⟨_, _, _, _, same⟩ | ⟨_, same⟩
    · cases same
    · cases same
  induction unfolds with
  | still | done => cases began
  | stop unfolds induction => exact induction only began
  | changing serving =>
      rcases List.mem_cons.mp began with here | later
      · cases here
        exact only.1
      · exact absurd later unsent
  | change serving returned goesOn unfolds beside induction =>
      rcases List.mem_cons.mp began with here | later
      · cases here
        exact only.1
      · rcases List.mem_append.mp later with within | behind
        · exact absurd within unsent
        · rcases beside.cases_mem behind with late | next
          · exact absurd late unsent
          · exact induction (only.2 _) next
  | awaiting waits => exact absurd began (unwaited waits)
  | awaitOff waits unfolds induction =>
      rcases List.mem_append.mp began with here | later
      · exact absurd here (unwaited waits)
      · exact induction (only _) later

end Course

/-! ## Steps of a campaign -/

/-- The targets of a step are admitted with it. -/
def Planned (settings : Settings) (transition : Transition) (roster : Roster)
    (step : Transition) (batch : List Target) : Prop :=
  ∀ target ∈ batch, target ∈ roster.targets ∧
    step ∈ (admission settings transition target).steps

theorem onlySends_round {allowed : Transition → List Target → Prop} {batch : List Target}
    {progress : Progress} (planned : allowed step batch) :
    (round simulation step batch progress).OnlySends allowed := by
  refine ⟨planned, fun outcomes => ?_⟩
  dsimp only
  split
  · split
    · trivial
    · exact fun _ => trivial
  · trivial

theorem onlySends_ofRoster {allowed : Transition → List Target → Prop}
    (each : ∀ (stage : Stage) failed (names : List String), allowed stage.step
      ((stage.targets (entriesOf settings transition roster) failed).filter
        fun target => names.contains target.xname)) :
    (ofRoster settings simulation transition roster).OnlySends allowed := by
  unfold ofRoster
  dsimp only
  split
  · trivial
  · apply Course.onlySends_bind
    · apply Course.onlySends_through
      intro stage progress
      apply Course.onlySends_through
      intro names start
      exact onlySends_round (each stage _ names)
    · intro progress
      trivial

theorem onlySends_course (inventory : Option Inventory) (targets : List Target) :
    (course settings simulation inventory transition targets).OnlySends
      (Planned settings transition (Roster.ofRequest inventory transition targets)) := by
  apply onlySends_ofRoster
  intro stage failed names target member
  have inStage := mem_targets_of_entries.mp (List.mem_of_mem_filter member)
  exact ⟨inStage.1, inStage.2.1⟩

theorem course_of_failures {inventory : Option Inventory} {targets : List Target}
    (refused : 0 < (opening settings transition
      (.ofRequest inventory transition targets)).failures) :
    course settings simulation inventory transition targets =
      .done { opening settings transition (.ofRequest inventory transition targets) with
        error := some (refusedText transition
          (opening settings transition (.ofRequest inventory transition targets)).failures) } :=
  if_pos refused

def stagedSteps (settings : Settings) (transition : Transition) (target : Target) :
    List Transition :=
  settings.options.transitionOrder.filter fun step =>
    (admission settings transition target).steps.contains step &&
      (settings.componentOrder step).contains target.kind

theorem first_step_sent {inventory : Option Inventory} {targets : List Target}
    {log : List Event} {report : Report} {rest : List Transition}
    (order : settings.options.transitionOrder.Nodup)
    (kinds : ∀ step, (settings.componentOrder step).Nodup)
    (distinct : ((Roster.ofRequest inventory transition targets).targets.map (·.xname)).Nodup)
    (passed : (opening settings transition
      (Roster.ofRequest inventory transition targets)).failures = 0)
    (runs : (course settings simulation inventory transition targets).Runs gateway log report)
    (listed : target ∈ (Roster.ofRequest inventory transition targets).targets)
    (staged : stagedSteps settings transition target = step :: rest) :
    step ∈ commands target.xname log := by
  unfold course ofRoster at runs
  rw [if_neg (by omega)] at runs
  rcases Course.Runs.of_bind runs with ⟨first, progress, second, sent, concluded, rfl⟩
  cases concluded
  rw [List.append_nil]
  let entry : Entry := ⟨target, (admission settings transition target).steps⟩
  have entered : entry ∈ entriesOf settings transition
      (Roster.ofRequest inventory transition targets) := List.mem_map.mpr ⟨target, listed, rfl⟩
  have apart : ((entriesOf settings transition
      (Roster.ofRequest inventory transition targets)).map (·.target.xname)).Nodup := by
    rw [entriesOf, List.map_map]
    exact distinct
  have steps : stepsOf entry (stages settings) = step :: rest :=
    (stepsOf_stages kinds entry).trans staged
  have once : (stepsOf entry (stages settings)).Nodup := by
    rw [stepsOf_stages kinds entry]
    exact order.filter _
  have gone := (through_stages apart entered once sent).2.2
  have all : commands target.xname first = _ := gone
  rw [all, if_neg List.not_mem_nil, steps, upToFailure]
  split
  · exact List.mem_singleton_self step
  · exact List.mem_cons_self

/-- Every step that a campaign sends to a target is sent to a role that is free for the
requested transition. The step itself is blocked for the role exactly if it is a half of an
emulated restart and its own rule blocks the role. And nothing keeps a target from the first of
its steps: a half that comes first is sent in every run, blocked or not. -/
theorem blocked_roles_bind_requested_transition (gateway : Gateway)
    (inventory : Option Inventory) (transition : Transition) (targets : List Target) :
    let settings := gateway.settings
    let campaign := course settings gateway.simulation inventory transition targets
    let roster := Roster.ofRequest inventory transition targets
    (∀ stopped log ending, campaign.Unfolds gateway stopped log ending →
      ∀ step batch, .began step batch ∈ log → ∀ target ∈ batch,
        target ∈ roster.targets ∧ blocksRole settings transition target.role = false ∧
        (blocksRole settings step target.role = true ↔
          Emulates settings transition target ∧ step ∈ emulated transition ∧
            target.role ≠ "" ∧ target.role ∈ settings.blockedRoles step)) ∧
    (settings.options.transitionOrder.Nodup →
      (∀ step, (settings.componentOrder step).Nodup) → (roster.targets.map (·.xname)).Nodup →
      (opening settings transition roster).failures = 0 →
      ∀ log report, campaign.Runs gateway log report →
      ∀ target ∈ roster.targets, ∀ step rest,
        stagedSteps settings transition target = step :: rest →
        step ∈ commands target.xname log) := by
  intro settings campaign roster
  constructor
  · intro stopped log ending unfolds step batch began target member
    have planned := unfolds.allowed_of_began (onlySends_course inventory targets) began
    have permitted := permitted_of_mem_steps (planned target member).2
    exact ⟨(planned target member).1, permitted.requested, permitted.blocked⟩
  · intro order kinds distinct passed log report runs target listed step rest staged
    exact first_step_sent order kinds distinct passed runs listed staged

theorem emulated_restart_sends_off :
    ∃ log report, (course {} true none .restart [{ xname := "x0", kind := .node }]).Runs
        { settings := {}, simulation := true } log report ∧
      .off ∈ commands "x0" log := by
  rcases Course.exists_runs_in_world { settings := {}, simulation := true }
    (Pool.isReady_start 1 1) rfl
    (course {} true none .restart [{ xname := "x0", kind := .node }]) (nowhere : World Unit) ()
    with ⟨log, runs⟩
  have staged : stagedSteps {} .restart { xname := "x0", kind := .node } = [.off, .on] := by
    decide +kernel
  have first := (blocked_roles_bind_requested_transition { settings := {}, simulation := true }
    none .restart [{ xname := "x0", kind := .node }]).2 (by decide)
    (fun step => by cases step <;> decide +kernel) (by decide) (by decide +kernel) log _ runs _
    (List.mem_singleton_self _) .off [.on] staged
  exact ⟨log, _, runs, first⟩

/-- A restart turns off a node of a role for which that is blocked, and for which it is refused
when it is asked for by name. -/
theorem blocked_role_turned_off_by_restart :
    let rule (blockedRoles resetTokens : List String) : ActionRule :=
      { blockedRoles, componentOrder := [.node], resetTokens }
    let settings : Settings := { rules := .ofList [
      ("Off", rule ["Management"] ["GracefulShutdown"]), ("On", rule [] ["On"]),
      ("Restart", rule [] ["GracefulRestart"])] }
    let node : Target :=
      { xname := "x0", kind := .node, role := "Management", resource := .computerSystem
        host := "b", actionPath := "/reset", resetTokens := ["GracefulShutdown", "On"] }
    let gateway : Gateway := ⟨settings, false, "https"⟩
    blocksRole settings .off node.role = true ∧
    (∃ report, course settings false none .off [node] = .done report ∧ report.failures = 1) ∧
    ∃ log report, (course settings false none .restart [node]).Goes gateway log (some report) ∧
      report.isOk = true ∧ .began .off [node] ∈ log ∧
      ∃ answer, .asked node (gateway.jsonRequest node .post "/reset"
        (Redfish.body (Redfish.resetRequest "GracefulShutdown"))) answer ∈ log := by
  intro rule settings node gateway
  let entries := entriesOf settings .restart ⟨[node], []⟩
  let isOff := Text.utf8 "\x7b\"PowerState\":\"Off\"\x7d"
  let world : World Unit := fun _ state => (.reply ⟨200, [], isOff⟩, state)
  have inStage {step : Transition} (one : ((Stage.mk step .node).targets entries []).length = 1)
      (inSteps : step ∈ (admission settings .restart node).steps) :
      (Stage.mk step .node).targets entries [] = [node] :=
    targets_eq_singleton one
      (mem_targets_of_entries.mpr ⟨List.mem_singleton_self _, inSteps, rfl, List.not_mem_nil⟩)
  have split : stages settings =
      [] ++ (⟨.off, .node⟩ :: ([⟨.restart, .node⟩] ++ (⟨.on, .node⟩ :: []))) := by
    decide +kernel
  let start : Progress := { report := opening settings .restart ⟨[node], []⟩ }
  let call (step : Transition) := gateway.call (.change step) node
  let wait := gateway.awaitOff node gateway.settings.options.offPause
    gateway.settings.options.offRetries
  let middle := start.recordAll [(wait.run world ()).1]
  have going : middle.failed = [] := by decide +kernel
  have turnedOff : ((Stage.mk .off .node).course false entries start).Goes gateway _
      (some middle) :=
    goes_stage_alone (inStage (by decide +kernel) (by decide +kernel))
      (goes_round_awaited world () .off node start rfl (by decide +kernel))
  have turnedOn : ((Stage.mk .on .node).course false entries middle).Goes gateway _
      (some (middle.recordAll [((call .on).run world ()).1])) :=
    goes_stage_alone (by rw [going]; exact inStage (by decide +kernel) (by decide +kernel))
      (goes_round_alone world () .on node middle rfl)
  have nobody : ∀ stage ∈ ([] : List Stage), ∀ entry ∈ entries, stage.includes entry = false :=
    nofun
  have idle : ∀ stage ∈ [Stage.mk .restart .node], ∀ entry ∈ entries,
      stage.includes entry = false := by
    decide +kernel
  have all := goes_next_stage nobody turnedOff
    (goes_next_stage idle turnedOn (goes_stages_idle nobody))
  rw [← split] at all
  have goes := @goes_of_stages gateway settings false .restart _ _ none [node]
    (by decide +kernel) all
  have events : ((call .off).trace world ()).1 =
      [.asked (gateway.jsonRequest node .post "/reset"
        (Redfish.body (Redfish.resetRequest "GracefulShutdown"))) (.reply ⟨200, [], isOff⟩)] := by
    decide +kernel
  have refused := @course_of_failures settings false .off none [node] (by decide +kernel)
  refine ⟨by decide +kernel, ⟨_, refused, by decide +kernel⟩,
    _, _, goes, by decide +kernel, List.mem_cons_self, .reply ⟨200, [], isOff⟩, ?_⟩
  rw [events]
  simp [asks]

end ClusterPower.Campaign
