import ClusterPower.Proofs.Campaign.Stops
import ClusterPower.Proofs.Campaign.Success

/-!
What a campaign reports. To what it has opened with it adds the outcomes that become final, in
the order in which they come, and it counts the failures among them. So the count is right and
the error is there whenever something has failed, whatever the targets answer and whoever stops
the pool.
-/

namespace ClusterPower.Campaign

open Conversation

variable {gateway : Gateway} {settings : Settings} {simulation : Bool} {transition : Transition}
  {roster : Roster}

/-! ## Outcomes on the way of a course -/

namespace Course

variable {Result Next Item : Type} {holds : List Outcome → Result → Prop}
  {further : List Outcome → Next → Prop} {taken : List Outcome}

/-- Whatever the outcomes are, the result accounts for those that become final on the way. Some
have been taken up before. -/
def Tallies (simulation : Bool) (holds : List Outcome → Result → Prop) :
    Course Result → List Outcome → Prop
  | .done result, taken => holds taken result
  | .change step _ next, taken =>
    ∀ outcomes, (next outcomes).Tallies simulation holds
      (taken ++ outcomes.filter fun outcome => !(step.isOff && !simulation && outcome.isOk))
  | .awaitOff _ next, taken =>
    ∀ outcomes, (next outcomes).Tallies simulation holds (taken ++ outcomes)

theorem tallies_bind {course : Course Result} {following : Result → Course Next}
    (first : course.Tallies simulation holds taken)
    (second : ∀ result taken, holds taken result →
      (following result).Tallies simulation further taken) :
    (course.bind following).Tallies simulation further taken := by
  induction course generalizing taken with
  | done result => exact second result taken first
  | change step targets next induction => exact fun outcomes => induction outcomes (first outcomes)
  | awaitOff targets next induction => exact fun outcomes => induction outcomes (first outcomes)

theorem tallies_through {body : Item → Result → Course Result}
    (each : ∀ item result taken, holds taken result →
      (body item result).Tallies simulation holds taken)
    (items : List Item) {result : Result} (start : holds taken result) :
    (through body items result).Tallies simulation holds taken := by
  induction items generalizing result taken with
  | nil => exact start
  | cons item items induction =>
      exact tallies_bind (each item result taken start) fun _ _ => induction

theorem Unfolds.accounts {course : Course Result} {stopped : Bool} {log : List Line}
    {result : Result} (unfolds : course.Unfolds gateway stopped log (some result))
    (tallies : course.Tallies simulation holds taken) :
    holds (taken ++ finals simulation log) result := by
  generalize finished : some result = ending at unfolds
  induction unfolds generalizing taken with
  | still | changing | awaiting => cases finished
  | done stopped last =>
      cases finished
      rwa [finals, List.filterMap_nil, List.append_nil]
  | stop unfolds induction => exact induction tallies finished
  | @change _ step targets next owner opening log dialogue more later rest whole ending
      serving returned goesOn unfolds beside induction =>
      have unread := serving.reaches.unread serving.opens serving.coherent returned goesOn
      have late : finals simulation (more.filterMap (Line.ofRemark? owner step)) = [] := by
        rw [finals_ofRemarks, unread, List.map_nil, List.filter_nil]
      have here := finals_ofRemarks simulation step owner log
      rw [← serving.reaches.received_eq serving.opens] at here
      have rested : finals simulation whole = finals simulation rest := beside.filterMap_right late
      have split : finals simulation
          (.began step targets :: (log.filterMap (Line.ofRemark? owner step) ++ whole)) =
            finals simulation (log.filterMap (Line.ofRemark? owner step)) ++
              finals simulation rest := by
        rw [← rested, ← finals_append]
        rfl
      rw [split, here, ← List.append_assoc]
      exact induction (tallies _) finished
  | awaitOff waits unfolds induction =>
      rw [finals_append, waits.finals_eq, ← List.append_assoc]
      exact induction (tallies _) finished

theorem exists_accounts_of_carryOut {pool : Pool} {course : Course Result} {result : Result}
    (ends : (course.carryOut gateway pool).MayEnd result)
    (tallies : course.Tallies simulation holds taken) :
    ∃ more, holds (taken ++ more) result := by
  induction course generalizing taken with
  | done last =>
      rcases ends with rfl
      exact ⟨[], by rwa [List.append_nil]⟩
  | change step targets next induction =>
      rcases (mayEnd_bind _ _ _).mp ends with ⟨outcomes, _, ends⟩
      rcases induction outcomes ends (tallies outcomes) with ⟨more, accounted⟩
      exact ⟨_, by rwa [List.append_assoc] at accounted⟩
  | awaitOff targets next induction =>
      rcases (mayEnd_bind _ _ _).mp ends with ⟨outcomes, _, ends⟩
      rcases induction outcomes ends (tallies outcomes) with ⟨more, accounted⟩
      exact ⟨_, by rwa [List.append_assoc] at accounted⟩

end Course

/-! ## Campaigns -/

theorem tallies_round (start : Progress) (step : Transition) (batch : List Target)
    {progress : Progress} {taken : List Outcome} (recorded : progress = start.recordAll taken) :
    (round simulation step batch progress).Tallies simulation
      (fun taken progress => progress = start.recordAll taken) taken := by
  intro outcomes
  dsimp only
  cases awaited : step.isOff && !simulation with
  | true =>
      rw [if_pos rfl]
      simp only [Bool.true_and]
      split
      · rw [recorded, recordAll_append]
        rfl
      · intro waited
        dsimp only [Course.Tallies]
        rw [recorded, recordAll_append, recordAll_append, List.append_assoc]
  | false =>
      rw [if_neg Bool.false_ne_true]
      simp only [Bool.false_and, Bool.not_false, List.filter_true]
      rw [recorded, recordAll_append]
      rfl

/-- What a report has in common with the one it has opened with, once some outcomes have been
taken up and it has been concluded. -/
structure Report.Closes (opening report : Report) (taken : List Outcome) : Prop where
  outcomes : report.outcomes = opening.outcomes ++ taken
  failures : report.failures = opening.failures + taken.countP fun outcome => !outcome.isOk
  error : report.error.isSome = true ↔ 0 < report.failures

theorem closes_conclude {report after : Report} {taken : List Outcome}
    (grows : report.Grows after taken) (fine : report.error = none) :
    report.Closes (conclude transition after) taken := by
  unfold conclude
  split
  · next failed => exact ⟨grows.outcomes, grows.failures, ⟨fun _ => failed, fun _ => rfl⟩⟩
  · next unfailed =>
    have faultless : after.error = none := grows.error.trans fine
    exact ⟨grows.outcomes, grows.failures, by simp [faultless, unfailed]⟩

theorem tallies_stages (entries : List Entry) (stages : List Stage) (start : Progress) :
    (Course.through (Stage.course simulation entries) stages start).Tallies simulation
      (fun taken progress => progress = start.recordAll taken) [] := by
  apply Course.tallies_through _ _ (by rfl)
  intro stage progress taken recorded
  exact Course.tallies_through
    (fun names progress taken recorded => tallies_round start stage.step _ recorded) _ recorded

theorem tallies_ofRoster (settings : Settings) (simulation : Bool) (transition : Transition)
    (roster : Roster) :
    (ofRoster settings simulation transition roster).Tallies simulation
      (fun taken report => (opening settings transition roster).Closes report taken) [] := by
  have fine := (grows_opening settings transition roster).error
  unfold ofRoster
  dsimp only
  split
  · next failed => exact ⟨(List.append_nil _).symm, rfl, ⟨fun _ => failed, fun _ => rfl⟩⟩
  · let start : Progress := { report := opening settings transition roster }
    apply Course.tallies_bind (tallies_stages _ _ start)
    rintro _ taken rfl
    exact closes_conclude (grows_recordAll start taken) fine

theorem Report.Closes.failures_eq {report : Report} {taken : List Outcome}
    (closes : (opening settings transition roster).Closes report taken) :
    report.failures = report.outcomes.countP fun outcome => !outcome.isOk := by
  have grows := grows_opening settings transition roster
  have opened : (opening settings transition roster).failures =
      (opening settings transition roster).outcomes.countP fun outcome => !outcome.isOk := by
    rw [grows.failures, grows.outcomes]
    exact Nat.zero_add _
  rw [closes.failures, closes.outcomes, List.countP_append, opened]

/-! ## Campaigns that do not start -/

theorem failures_opening {outcome : Outcome} :
    (outcome ∈ (opening settings transition roster).outcomes ∧ outcome.code ≠ 0) ↔
      (∃ xname ∈ roster.missing, outcome = missingOutcome xname) ∨
        ∃ target ∈ roster.targets, ∃ obstacle,
          admission settings transition target = .refused obstacle ∧
            outcome = .failed target (obstacle.message transition target) := by
  have fails : (-1 : Int) ≠ 0 := by decide
  rw [mem_outcomes_opening]
  constructor
  · rintro ⟨⟨xname, missing, rfl⟩ | ⟨target, listed, noted⟩, failed⟩
    · exact Or.inl ⟨xname, missing, rfl⟩
    · rcases outcome?_eq_some_iff.mp noted with ⟨_, _, rfl⟩ | refused
      · exact absurd rfl failed
      · exact Or.inr ⟨target, listed, refused⟩
  · rintro (⟨xname, missing, rfl⟩ | ⟨target, listed, obstacle, refused, rfl⟩)
    · exact ⟨Or.inl ⟨xname, missing, rfl⟩, fails⟩
    · exact ⟨Or.inr ⟨target, listed, outcome?_eq_some_iff.mpr (Or.inr ⟨_, refused, rfl⟩)⟩, fails⟩

theorem successes_opening {outcome : Outcome} :
    (outcome ∈ (opening settings transition roster).outcomes ∧ outcome.code = 0) ↔
      ∃ target ∈ roster.targets, ∃ error,
        admission settings transition target = .spared error ∧
          outcome = .succeeded target ("Ignored: " ++ Obstacle.describeToken target error) := by
  rw [mem_outcomes_opening]
  constructor
  · rintro ⟨⟨xname, missing, rfl⟩ | ⟨target, listed, noted⟩, succeeded⟩
    · cases succeeded
    · rcases outcome?_eq_some_iff.mp noted with spared | ⟨_, _, rfl⟩
      · exact ⟨target, listed, spared⟩
      · cases succeeded
  · rintro ⟨target, listed, error, spared, rfl⟩
    exact ⟨Or.inr ⟨target, listed, outcome?_eq_some_iff.mpr (Or.inl ⟨_, spared, rfl⟩)⟩, rfl⟩

/-! ## Reports -/

/-- The failures of a report are the outcomes with another code than 0, and there is an error if
there are any, however the campaign was carried out. A campaign that does not start has failed
for unknown boards and refused targets only, and succeeded for restarts that are ignored. -/
theorem failures_are_counted (gateway : Gateway) (inventory : Option Inventory)
    (transition : Transition) (targets : List Target) :
    let roster := Roster.ofRequest inventory transition targets
    let opening := opening gateway.settings transition roster
    let course := course gateway.settings gateway.simulation inventory transition targets
    let judged := admission gateway.settings transition
    (∀ report,
      ((∃ pool, (run gateway pool inventory transition targets).MayEnd report) ∨
        ∃ stopped log, course.Unfolds gateway stopped log (some report)) →
      report.failures = report.outcomes.countP (fun outcome => outcome.code ≠ 0) ∧
        (report.error.isSome = true ↔ 0 < report.failures)) ∧
    (0 < opening.failures →
      ∃ report, course = .done report ∧
        (∀ pool, run gateway pool inventory transition targets = .done report) ∧
        report.outcomes = roster.missing.map missingOutcome ++
          roster.targets.filterMap (fun target => (judged target).outcome? transition target) ∧
        report.failures = roster.missing.length +
          roster.targets.countP (fun target => Offends gateway.settings transition target) ∧
        (∀ outcome, (outcome ∈ report.outcomes ∧ outcome.code ≠ 0) ↔
          (∃ xname, UnknownBoard inventory transition targets xname ∧
            outcome = missingOutcome xname) ∨
          ∃ target ∈ roster.targets, ∃ obstacle, judged target = .refused obstacle ∧
            outcome = .failed target (obstacle.message transition target)) ∧
        ∀ outcome, (outcome ∈ report.outcomes ∧ outcome.code = 0) ↔
          ∃ target ∈ roster.targets, ∃ error, judged target = .spared error ∧
            outcome = .succeeded target
              ("Ignored: " ++ Obstacle.describeToken target error)) := by
  intro roster opening course judged
  have tallies := tallies_ofRoster gateway.settings gateway.simulation transition roster
  have failed : (fun outcome : Outcome => !outcome.isOk) =
      fun outcome => decide (outcome.code ≠ 0) := by
    funext outcome
    rw [Outcome.isOk, Bool.eq_iff_iff]
    simp
  constructor
  · intro report ends
    have closed : ∃ taken, opening.Closes report taken := by
      rcases ends with ⟨pool, ends⟩ | ⟨stopped, log, unfolds⟩
      · exact Course.exists_accounts_of_carryOut ends tallies
      · exact ⟨_, unfolds.accounts tallies⟩
    rcases closed with ⟨taken, closes⟩
    exact ⟨by rw [closes.failures_eq, failed], closes.error⟩
  · intro refused
    have stopped : course = .done { opening with
        error := some (refusedText transition opening.failures) } := if_pos refused
    have counted := (adds_opening gateway.settings transition roster).failures
    refine ⟨_, stopped, fun pool => ?_, outcomes_opening _ _ _, ?_, fun outcome => ?_,
      fun outcome => successes_opening⟩
    · change course.carryOut gateway pool = _
      rw [stopped]
      rfl
    · rw [List.countP_eq_length_filter]
      simpa [faultsOf] using counted
    · simp only [← mem_missing_iff]
      exact failures_opening

theorem ignored_node_is_no_failure :
    let gateway : Gateway :=
      { settings := { options := { restartFallback := .ignore } }, simulation := false }
    let node : Target := { xname := "x0", kind := .node, host := "a" }
    let chassis : Target := { xname := "x1", kind := .chassis }
    ∃ report, (∀ pool, run gateway pool none .restart [node, chassis] = .done report) ∧
      report.failures = 1 ∧ report.error.isSome = true ∧
      report.outcomes.countP (fun outcome => outcome.code ≠ 0) = 1 ∧
      ∃ outcome ∈ report.outcomes, outcome.code = 0 ∧ outcome.target = node := by
  intro gateway node chassis
  have counts := failures_are_counted gateway none .restart [node, chassis]
  rcases counts.2 (by decide +kernel) with ⟨report, _, ran, _, failures, _, successes⟩
  have ends : (run gateway (Pool.create 1 1) none .restart [node, chassis]).MayEnd report := by
    rw [ran]
    rfl
  have tallied := counts.1 report (Or.inl ⟨_, ends⟩)
  have one : report.failures = 1 := failures.trans (by decide +kernel)
  have spared := (successes _).mpr
    ⟨node, List.mem_cons_self, .noneAllowed .restart, by decide +kernel, rfl⟩
  exact ⟨report, ran, one, tallied.2.mpr (by rw [one]; exact Nat.one_pos), tallied.1 ▸ one,
    _, spared.1, spared.2, rfl⟩

end ClusterPower.Campaign
