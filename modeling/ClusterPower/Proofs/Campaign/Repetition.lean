import ClusterPower.Proofs.Campaign.BlockedRoles
import ClusterPower.Proofs.Campaign.Confluence
import ClusterPower.Proofs.Campaign.Limits
import ClusterPower.Proofs.Campaign.Tally
import Mathlib.Data.Finset.Card

/-!
Names that are requested more than once. An inventory arranges names, and so has each of them
once. Without one all targets stay: a report counts each of them, and targets that share a name
are sent their steps together, each time that one of them is.
-/

namespace ClusterPower.Campaign

open Conversation

variable {gateway : Gateway} {settings : Settings} {simulation : Bool}
  {transition step : Transition} {roster : Roster} {xname : String}

/-! ## Totals -/

theorem total_recordAll (outcomes : List Outcome) (progress : Progress) :
    (progress.recordAll outcomes).report.total = progress.report.total := by
  induction outcomes generalizing progress with
  | nil => rfl
  | cons outcome rest induction =>
      refine (induction (progress.record outcome)).trans ?_
      unfold Progress.record
      split <;> rfl

theorem total_conclude (report : Report) : (conclude transition report).total = report.total := by
  unfold conclude
  split <;> rfl

theorem tallies_total (settings : Settings) (simulation : Bool) (transition : Transition)
    (roster : Roster) :
    (ofRoster settings simulation transition roster).Tallies simulation
      (fun _ report => report.total = (opening settings transition roster).total) [] := by
  unfold ofRoster
  dsimp only
  split
  · rfl
  · let start : Progress := { report := opening settings transition roster }
    apply Course.tallies_bind (tallies_stages _ _ start)
    rintro _ taken rfl
    exact (total_conclude _).trans (total_recordAll taken start)

theorem total_judge (report : Report) (target : Target) :
    (report.judge settings transition target).total =
      report.total + if (admission settings transition target).isCounted then 1 else 0 := by
  have counted (counts : Bool) :
      (if counts then { report with total := report.total + 1 } else report).total =
        report.total + if counts then 1 else 0 := by
    cases counts <;> rfl
  rw [← counted]
  unfold Report.judge
  dsimp only
  split
  · rfl
  · split <;> rfl

theorem total_opening (settings : Settings) (transition : Transition) (roster : Roster) :
    (opening settings transition roster).total =
      roster.targets.countP fun target => (admission settings transition target).isCounted := by
  have judged (targets : List Target) (report : Report) :
      (targets.foldl (Report.judge settings transition) report).total = report.total +
        targets.countP fun target => (admission settings transition target).isCounted := by
    induction targets generalizing report with
    | nil => rfl
    | cons target rest induction =>
        rw [List.foldl_cons, induction, total_judge, List.countP_cons]
        omega
  have missing (names : List String) (report : Report) :
      (names.foldl (fun report xname => report.fail (missingOutcome xname)) report).total =
        report.total := by
    induction names generalizing report with
    | nil => rfl
    | cons name rest induction => exact induction _
  rw [opening_eq, judged, missing]
  exact Nat.zero_add _

theorem total_of_passed (passed : (opening settings transition roster).failures = 0) :
    (opening settings transition roster).total = roster.targets.length := by
  rw [total_opening, List.countP_eq_length]
  intro target listed
  have none : (faultsOf settings transition roster).length = 0 := by
    have counted := (adds_opening settings transition roster).failures
    rw [passed] at counted
    omega
  have innocent : ¬Offends settings transition target := by
    intro offends
    have fault : (target, (-1 : Int)) ∈ faultsOf settings transition roster := by
      refine List.mem_append_right _ (List.mem_map_of_mem (List.mem_filter.mpr ⟨listed, ?_⟩))
      exact decide_eq_true offends
    rw [List.length_eq_zero_iff] at none
    rw [none] at fault
    cases fault
  cases judged : admission settings transition target with
  | admitted steps => rfl
  | spared error => rfl
  | refused obstacle => exact absurd (refused_iff_offends.mp ⟨obstacle, judged⟩) innocent

/-! ## Targets that share a name -/

/-- The targets of the roster that are of the kind and the name of a target, and go through a
step. -/
def namesakes (settings : Settings) (transition : Transition) (roster : Roster)
    (step : Transition) (target : Target) : List Target :=
  roster.targets.filter fun other =>
    other.xname = target.xname ∧ other.kind = target.kind ∧
      step ∈ (admission settings transition other).steps

/-- Whoever is sent a step is sent it with all namesakes. -/
def SentTogether (settings : Settings) (transition : Transition) (roster : Roster)
    (step : Transition) (batch : List Target) : Prop :=
  ∀ target ∈ batch, batch.filter (fun other => other.xname = target.xname) =
    namesakes settings transition roster step target

theorem onlySends_together :
    (ofRoster settings simulation transition roster).OnlySends
      (SentTogether settings transition roster) := by
  apply onlySends_ofRoster
  intro stage failed names target member
  rcases List.mem_filter.mp member with ⟨inStage, named⟩
  rcases mem_targets_of_entries.mp inStage with ⟨_, _, kind, going⟩
  rw [targets_entriesOf, List.filter_filter, List.filter_filter, namesakes]
  apply List.filter_congr
  intro other _
  -- Both names and failures are told by the name alone, and so alike for all namesakes.
  by_cases same : other.xname = target.xname
  · have inRound : target.xname ∈ names := List.contains_iff_mem.mp named
    rw [Bool.eq_iff_iff]
    simp [same, inRound, kind, going, Stage.includes, and_comm]
  · simp [same]

/-! ## Campaigns -/

/-- Every target of a campaign that starts counts, so that the total is that of the names exactly
if no name is there twice. With an inventory that describes each component under its own name no
name is; without one they are the names that were requested. At every moment, a name has been sent
a step at most as many times for each time that it is listed, and whoever was sent it was sent it
with all namesakes. So a campaign that has ended counts its names and has sent no name a step
twice exactly if no name is listed twice. -/
theorem every_listing_counts (gateway : Gateway) (inventory : Option Inventory)
    (transition : Transition) (targets : List Target)
    (order : gateway.settings.options.transitionOrder.Nodup)
    (kinds : ∀ step, (gateway.settings.componentOrder step).Nodup)
    (passed : (opening gateway.settings transition
      (.ofRequest inventory transition targets)).failures = 0) :
    let campaign := course gateway.settings gateway.simulation inventory transition targets
    let roster := Roster.ofRequest inventory transition targets
    let names := roster.targets.map (·.xname)
    (inventory = none → names = targets.map (·.xname)) ∧
    (∀ known, inventory = some known →
      (∀ xname component, known.component xname = some component → component.xname = xname) →
      names.Nodup) ∧
    (∀ report,
      ((∃ pool, (run gateway pool inventory transition targets).MayEnd report) ∨
        ∃ stopped log, campaign.Unfolds gateway stopped log (some report)) →
      report.total = names.length ∧ (report.total = names.toFinset.card ↔ names.Nodup)) ∧
    (∀ stopped log ending, campaign.Unfolds gateway stopped log ending →
      (∀ xname step, timesSent xname step log ≤ names.count xname ^ 2) ∧
      ∀ step batch, .began step batch ∈ log → ∀ target ∈ batch,
        batch.filter (fun other => other.xname = target.xname) =
          namesakes gateway.settings transition roster step target) ∧
    ∀ stopped log report, campaign.Unfolds gateway stopped log (some report) →
      ((report.total = names.toFinset.card ∧ ∀ xname step, timesSent xname step log ≤ 1) ↔
        names.Nodup) := by
  intro campaign roster names
  have tallies := tallies_total gateway.settings gateway.simulation transition roster
  have all : (opening gateway.settings transition roster).total = names.length := by
    rw [total_of_passed passed, List.length_map]
  have distinct {report : Report} (total : report.total = names.length) :
      report.total = names.toFinset.card ↔ names.Nodup := by
    rw [total, eq_comm]
    exact Multiset.toFinset_card_eq_card_iff_nodup
  have ended {report : Report} {stopped : Bool} {log : List Line}
      (unfolds : campaign.Unfolds gateway stopped log (some report)) :
      report.total = names.length :=
    (unfolds.accounts tallies).trans all
  have limited {stopped : Bool} {log : List Line} {ending : Option Report}
      (unfolds : campaign.Unfolds gateway stopped log ending) (xname : String)
      (step : Transition) : timesSent xname step log ≤ names.count xname ^ 2 :=
    unfolds.timesSent_le (sendsAtMost_ofRoster order kinds)
  refine ⟨?_, ?_, ?_, fun stopped log ending unfolds => ⟨limited unfolds, ?_⟩, ?_⟩
  · rintro rfl
    rfl
  · rintro known rfl own
    exact nodup_names_withBoards own
  · rintro report (⟨pool, ends⟩ | ⟨stopped, log, unfolds⟩)
    · rcases Course.exists_accounts_of_carryOut ends tallies with ⟨_, counted⟩
      exact ⟨counted.trans all, distinct (counted.trans all)⟩
    · exact ⟨ended unfolds, distinct (ended unfolds)⟩
  · intro step batch began target member
    exact unfolds.allowed_of_began onlySends_together began target member
  · intro stopped log report unfolds
    -- The total tells whether a name is repeated, and if none is, one listing allows one step.
    rw [distinct (ended unfolds), and_iff_left_iff_imp]
    intro once xname step
    refine Nat.le_trans (limited unfolds xname step) ?_
    exact (Nat.pow_le_one_iff (by decide)).mpr (List.nodup_iff_count_le_one.mp once xname)

theorem distinct_nodes_are_sent_once :
    let gateway : Gateway := { settings := {}, simulation := true }
    let nodes : List Target :=
      [{ xname := "x0", kind := .node }, { xname := "x1", kind := .node }]
    ∃ log report, (course {} true none .on nodes).Unfolds gateway false log (some report) ∧
      report.total = 2 ∧ ∀ xname step, timesSent xname step log ≤ 1 := by
  intro gateway nodes
  have ends := ((course {} true none .on nodes).carryOut gateway (Pool.create 1 1).start).mayEnd_run
    (nowhere : World Unit) ()
  rcases Course.exists_goes_of_carryOut (Pool.isReady_start 1 1) rfl ends with ⟨log, goes⟩
  have counts := every_listing_counts gateway none .on nodes (by decide)
    (fun step => by cases step <;> decide +kernel) (by decide +kernel)
  have both := (counts.2.2.2.2 false log _ goes.unfolds).mpr (by decide)
  exact ⟨log, _, goes.unfolds, both.1.trans (by decide +kernel), both.2⟩

theorem node_listed_twice_is_sent_twice :
    let gateway : Gateway := { settings := {}, simulation := true }
    let node : Target := { xname := "x0", kind := .node, host := "b", resetTokens := ["On"] }
    gateway.settings.options.transitionOrder.Nodup ∧
    (∀ step, (gateway.settings.componentOrder step).Nodup) ∧
    (opening {} .on (.ofRequest none .on [node, node])).failures = 0 ∧
    ∃ log report,
      (course {} true none .on [node, node]).Unfolds gateway false log (some report) ∧
      report.total = 2 ∧ ([node, node].map (·.xname)).toFinset.card = 1 ∧
      timesSent "x0" .on log = 2 := by
  intro gateway node
  let nodes := [node, node]
  let entries := entriesOf {} .on ⟨nodes, []⟩
  let start : Progress := { report := opening {} .on ⟨nodes, []⟩ }
  have sends := sends_each (nowhere : World Unit) .on gateway (nodes.map fun node => (node, ()))
  have called : (round true .on nodes start).Goes gateway _ (some _) :=
    Course.Goes.change sends (.done _)
  have listed : (Stage.mk .on .node).targets entries [] = nodes := by
    rw [targets_entriesOf, List.filter_eq_self]
    decide +kernel
  have split : stages {} = (stages {}).take 22 ++ ⟨.on, .node⟩ :: (stages {}).drop 23 := by
    decide +kernel
  have idle : ∀ other ∈ (stages {}).take 22 ++ (stages {}).drop 23, ∀ entry ∈ entries,
      other.includes entry = false := by
    decide +kernel
  have goes := @goes_of_one_stage gateway {} true .on ⟨.on, .node⟩ _ _ none nodes _ _
    (by decide +kernel) split idle (goes_stage_at_once listed (by decide +kernel) called)
  exact ⟨by decide, fun step => by cases step <;> decide +kernel, by decide +kernel, _, _,
    goes.unfolds, by decide +kernel, by decide, by decide +kernel⟩

end ClusterPower.Campaign
