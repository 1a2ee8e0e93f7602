import ClusterPower.Campaign.Course
import ClusterPower.Proofs.Coupling

/-!
All or nothing. A campaign with a single target that cannot take part, or a board that
nobody knows, sends nothing, and its report names each of them as a failure.
-/

namespace ClusterPower.Campaign

variable {settings : Settings} {transition : Transition} {target : Target}

/-! ## Targets that cannot take part -/

/-- The reasons for which a target keeps a campaign from starting. -/
def Offends (settings : Settings) (transition : Transition) (target : Target) : Prop :=
  settings.componentOrder transition = [] ∨
  (target.role ≠ "" ∧ target.role ∈ settings.blockedRoles transition) ∨
  target.kind ∉ settings.componentOrder transition ∨
  (transition.isRestart = true ∧ settings.options.restartFallback = .refuse ∧
    (settings.resetToken transition target.resetTokens).isOk = false)

instance : Decidable (Offends settings transition target) :=
  inferInstanceAs (Decidable (_ ∨ _ ∨ _ ∨ _))

theorem blocksRole_iff {role : String} :
    blocksRole settings transition role = true ↔
      role ≠ "" ∧ role ∈ settings.blockedRoles transition := by
  simp [blocksRole]

theorem fitAdmission_refused_iff :
    (∃ obstacle, fitAdmission settings transition target = .refused obstacle) ↔
      transition.isRestart = true ∧ settings.options.restartFallback = .refuse ∧
        (settings.resetToken transition target.resetTokens).isOk = false := by
  unfold fitAdmission
  cases transition.isRestart with
  | false => simp
  | true =>
      cases settings.resetToken transition target.resetTokens with
      | ok token => simp [Except.isOk, Except.toBool]
      | error error =>
          cases settings.options.restartFallback <;> simp [Except.isOk, Except.toBool]

theorem refused_iff_offends :
    (∃ obstacle, admission settings transition target = .refused obstacle) ↔
      Offends settings transition target := by
  unfold admission Offends
  by_cases empty : settings.componentOrder transition = []
  · simp [empty]
  · by_cases blocked : blocksRole settings transition target.role = true
    · simp [empty, blocked, blocksRole_iff.mp blocked]
    · by_cases listed : target.kind ∈ settings.componentOrder transition
      · rw [← fitAdmission_refused_iff, ← blocksRole_iff]
        simp [empty, blocked, listed]
      · simp [empty, blocked, listed]

theorem outcome?_eq_some_iff {judged : Admission} {outcome : Outcome} :
    judged.outcome? transition target = some outcome ↔
      (∃ error, judged = .spared error ∧
        outcome = .succeeded target ("Ignored: " ++ Obstacle.describeToken target error)) ∨
      ∃ obstacle, judged = .refused obstacle ∧
        outcome = .failed target (obstacle.message transition target) := by
  cases judged with
  | admitted steps => simp [Admission.outcome?]
  | spared error => simp [Admission.outcome?, eq_comm]
  | refused obstacle => simp [Admission.outcome?, eq_comm]

/-! ## Reports -/

namespace Report

def faults (report : Report) : List (Target × Int) :=
  (report.outcomes.filter fun outcome => !outcome.isOk).map fun outcome =>
    (outcome.target, outcome.code)

/-- What follows a report, with some more faults that it has counted. -/
structure Adds (report after : Report) (more : List (Target × Int)) : Prop where
  faults : after.faults = report.faults ++ more
  failures : after.failures = report.failures + more.length

variable {report middle after : Report} {outcome : Outcome} {first second : List (Target × Int)}

theorem adds_note (ok : outcome.isOk = true) : report.Adds (report.note outcome) [] where
  faults := by simp [Report.faults, note, ok]
  failures := rfl

theorem adds_fail (failed : outcome.isOk = false) :
    report.Adds (report.fail outcome) [(outcome.target, outcome.code)] where
  faults := by simp [Report.faults, fail, note, failed]
  failures := rfl

theorem Adds.trans (before : report.Adds middle first) (behind : middle.Adds after second) :
    report.Adds after (first ++ second) where
  faults := by rw [behind.faults, before.faults, List.append_assoc]
  failures := by rw [behind.failures, before.failures, List.length_append, Nat.add_assoc]

theorem adds_foldl {Item : Type} (step : Report → Item → Report)
    (added : Item → List (Target × Int))
    (each : ∀ report item, Adds report (step report item) (added item)) (items : List Item)
    (report : Report) : report.Adds (items.foldl step report) (items.flatMap added) := by
  induction items generalizing report with
  | nil => exact ⟨by simp, rfl⟩
  | cons item rest induction => exact (each report item).trans (induction _)

def judge (settings : Settings) (transition : Transition) (report : Report)
    (target : Target) : Report :=
  let admission := Campaign.admission settings transition target
  let report :=
    if admission.isCounted then { report with total := report.total + 1 } else report
  match admission.outcome? transition target with
  | none => report
  | some outcome => if outcome.isOk then report.note outcome else report.fail outcome

theorem adds_judge (report : Report) (target : Target) :
    report.Adds (report.judge settings transition target)
      (if Offends settings transition target then [(target, -1)] else []) := by
  have counted : ∀ counts : Bool,
      report.Adds (if counts then { report with total := report.total + 1 } else report) [] := by
    intro counts
    cases counts with
    | false => exact ⟨by simp, rfl⟩
    | true => exact ⟨by simp [Report.faults], rfl⟩
  have offends : (∃ obstacle, admission settings transition target = .refused obstacle) ↔
      Offends settings transition target := refused_iff_offends
  unfold judge
  cases decision : admission settings transition target with
  | admitted steps =>
      rw [decision] at offends
      have innocent : ¬Offends settings transition target := fun offending => by
        rcases offends.mpr offending with ⟨_, equal⟩
        cases equal
      rw [if_neg innocent]
      exact counted true
  | spared error =>
      rw [decision] at offends
      have innocent : ¬Offends settings transition target := fun offending => by
        rcases offends.mpr offending with ⟨_, equal⟩
        cases equal
      rw [if_neg innocent]
      exact (counted true).trans (adds_note rfl)
  | refused obstacle =>
      rw [if_pos (offends.mp ⟨obstacle, decision⟩)]
      exact (counted _).trans (adds_fail rfl)

end Report

theorem opening_eq (roster : Roster) :
    opening settings transition roster =
      roster.targets.foldl (Report.judge settings transition)
        (roster.missing.foldl (fun report xname => report.fail (missingOutcome xname)) {}) := rfl

/-- The faults that a campaign has before anything is sent: missing boards first. -/
def faultsOf (settings : Settings) (transition : Transition) (roster : Roster) :
    List (Target × Int) :=
  roster.missing.map (fun xname => ({ xname := xname }, -1)) ++
    (roster.targets.filter fun target => Offends settings transition target).map
      fun target => (target, -1)

theorem adds_opening (settings : Settings) (transition : Transition) (roster : Roster) :
    Report.Adds {} (opening settings transition roster)
      (faultsOf settings transition roster) := by
  have missing := Report.adds_foldl (fun report xname => report.fail (missingOutcome xname))
    (fun xname => [({ xname := xname }, -1)]) (fun _ _ => Report.adds_fail rfl) roster.missing {}
  have refused := fun report => Report.adds_foldl (Report.judge settings transition) _
    Report.adds_judge roster.targets report
  have offenders : ∀ targets : List Target,
      targets.flatMap (fun target =>
        if Offends settings transition target then [((target, -1) : Target × Int)] else []) =
      (targets.filter fun target => Offends settings transition target).map
        fun target => (target, -1) := by
    intro targets
    induction targets with
    | nil => rfl
    | cons target rest induction =>
        rw [List.flatMap_cons, induction, List.filter_cons]
        by_cases offends : Offends settings transition target
        · simp [offends]
        · simp [offends]
  have both := missing.trans (refused _)
  rw [offenders, ← List.map_eq_flatMap, ← opening_eq] at both
  exact both

/-! ## Boards that nobody knows -/

/-- A board that is pulled into a request, by a module that powers it, and that neither
the request nor the inventory describes. -/
def UnknownBoard (inventory : Option Inventory) (transition : Transition)
    (targets : List Target) (xname : String) : Prop :=
  ∃ known, inventory = some known ∧ (transition.isOn || transition.isOff) = true ∧
    (∃ module ∈ targets, Coupling.powersBoard known module.xname = true ∧
      xname = Xname.board module.xname) ∧
    (∀ target ∈ targets, target.xname ≠ xname) ∧ known.component xname = none

theorem resolve?_isNone {inventory : Inventory} {targets : List Target} {xname : String} :
    (Roster.resolve? inventory targets xname).isNone = true ↔
      (∀ target ∈ targets, target.xname ≠ xname) ∧ inventory.component xname = none := by
  simp [Roster.resolve?, Roster.described?]

theorem mem_missing_iff {inventory : Option Inventory} {targets : List Target}
    {xname : String} :
    xname ∈ (Roster.ofRequest inventory transition targets).missing ↔
      UnknownBoard inventory transition targets xname := by
  cases inventory with
  | none => simp [Roster.ofRequest, UnknownBoard]
  | some known =>
      simp only [Roster.ofRequest, Roster.withBoards, List.mem_filter, resolve?_isNone,
        Coupling.mem_arrange, UnknownBoard, List.mem_map]
      constructor
      · rintro ⟨⟨target, listed, same⟩ | ⟨arranged, _, ⟨module, listed, rfl⟩, powers, same⟩,
          undescribed, unknown⟩
        · exact absurd same (undescribed target listed)
        · exact ⟨known, rfl, arranged, ⟨module, listed, powers, same⟩, undescribed, unknown⟩
      · rintro ⟨_, equal, arranged, ⟨module, listed, powers, same⟩, undescribed, unknown⟩
        cases equal
        exact ⟨Or.inr ⟨arranged, _, ⟨module, listed, rfl⟩, powers, same⟩, undescribed, unknown⟩

theorem nodup_missing (inventory : Option Inventory) (targets : List Target) :
    (Roster.ofRequest inventory transition targets).missing.Nodup := by
  cases inventory with
  | none => exact List.nodup_nil
  | some known => exact (Coupling.nodup_arrange _ _ _).filter _

/-! ## Campaigns -/

/-- If a board is unknown or a target cannot take part, nothing is sent to anyone. The
report then has an error, and one failure with code -1 for each such board and target.
Otherwise nothing has failed yet. -/
theorem offended_campaign_sends_nothing (gateway : Gateway) (inventory : Option Inventory)
    (transition : Transition) (targets : List Target) :
    let roster := Roster.ofRequest inventory transition targets
    let offenders := roster.targets.filter fun target =>
      Offends gateway.settings transition target
    let faults : List (Target × Int) :=
      roster.missing.map (fun xname => ({ xname := xname }, -1)) ++
        offenders.map fun target => (target, -1)
    (roster.missing.Nodup ∧
      ∀ xname, xname ∈ roster.missing ↔ UnknownBoard inventory transition targets xname) ∧
    (roster.missing ≠ [] ∨ offenders ≠ [] →
      ∃ report,
        course gateway.settings gateway.simulation inventory transition targets =
          .done report ∧
        (∀ pool, run gateway pool inventory transition targets = .done report) ∧
        report.error.isSome = true ∧
        report.failures = roster.missing.length + offenders.length ∧
        report.faults = faults) ∧
    (roster.missing = [] → offenders = [] →
      (opening gateway.settings transition roster).failures = 0 ∧
      (opening gateway.settings transition roster).faults = []) := by
  intro roster offenders faults
  have added := adds_opening gateway.settings transition roster
  have counted : (opening gateway.settings transition roster).failures =
      roster.missing.length + offenders.length := by
    rw [added.failures, faultsOf, List.length_append, List.length_map, List.length_map]
    exact Nat.zero_add _
  refine ⟨⟨nodup_missing inventory targets, fun xname => mem_missing_iff⟩, ?_, ?_⟩
  · intro offended
    have positive : 0 < (opening gateway.settings transition roster).failures := by
      rw [counted]
      rcases offended with missing | offending
      · exact Nat.add_pos_left (List.length_pos_iff.mpr missing) _
      · exact Nat.add_pos_right _ (List.length_pos_iff.mpr offending)
    have stopped : course gateway.settings gateway.simulation inventory transition targets =
        .done { opening gateway.settings transition roster with
          error := some (refusedText transition
            (opening gateway.settings transition roster).failures) } := if_pos positive
    refine ⟨_, stopped, fun pool => ?_, rfl, counted, added.faults⟩
    rw [run, stopped]
    rfl
  · intro missing offending
    rw [missing, offending] at counted
    refine ⟨counted, ?_⟩
    have none : faults = [] := by
      simp only [faults, missing, offending, List.map_nil, List.append_nil]
    exact added.faults.trans none

theorem unrestartable_node_sends_nothing :
    ∃ report, course { options := { restartFallback := .refuse } } true none .restart
        [{ xname := "x0", kind := .node }] = .done report ∧
      report.failures = 1 ∧ report.faults = [({ xname := "x0", kind := .node }, -1)] := by
  have offends : Offends { options := { restartFallback := .refuse } } .restart
      { xname := "x0", kind := .node } := by decide +kernel
  have offenders : [({ xname := "x0", kind := .node } : Target)].filter (fun target =>
      Offends { options := { restartFallback := .refuse } } .restart target) =
        [{ xname := "x0", kind := .node }] := by
    rw [List.filter_cons_of_pos (by simpa using offends), List.filter_nil]
  have all := offended_campaign_sends_nothing
    { settings := { options := { restartFallback := .refuse } }, simulation := true } none
    .restart [{ xname := "x0", kind := .node }]
  simp only [Roster.ofRequest, offenders] at all
  rcases all.2.1 (Or.inr (List.cons_ne_nil _ _)) with ⟨report, stopped, _, _, counted, faults⟩
  exact ⟨report, stopped, counted, faults⟩

end ClusterPower.Campaign
