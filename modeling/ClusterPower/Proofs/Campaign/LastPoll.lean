import ClusterPower.Proofs.Campaign.Tally
import ClusterPower.Proofs.Campaign.Waits

/-!
Targets that are reported to be turned off. Whatever else goes on beside the wait for such a
target, it has polled as it would have alone, and the last of its polls has shown Off.
-/

namespace ClusterPower.Campaign

open Conversation Gateway

variable {gateway : Gateway} {target : Target}

theorem Course.Unfolds.exists_waits {Result : Type} {course : Course Result} {stopped : Bool}
    {log : List Line} {ending : Option Result} {outcome : Outcome}
    (unfolds : course.Unfolds gateway stopped log ending) (settled : .settled outcome ∈ log) :
    ∃ pending lines waiting, Waits gateway pending lines waiting ∧ lines.Sublist log ∧
      .settled outcome ∈ lines := by
  have elsewhere {owner : Nat → Option Unit} {step : Transition}
      {remarks : List (FanOut.Remark Unit)} :
      .settled outcome ∉ remarks.filterMap (Line.ofRemark? owner step) := by
    intro written
    rcases cases_ofRemarks written with ⟨_, _, _, same⟩ | ⟨_, same⟩
    · cases same
    · cases same
  induction unfolds with
  | still | done => cases settled
  | stop unfolds induction => exact induction settled
  | changing serving =>
      rcases List.mem_cons.mp settled with same | settled
      · cases same
      · exact absurd settled elsewhere
  | change serving returned goesOn unfolds beside induction =>
      rcases List.mem_cons.mp settled with same | settled
      · cases same
      have behind := (List.mem_append.mp settled).resolve_left elsewhere
      have later := (beside.cases_mem behind).resolve_left elsewhere
      rcases induction later with ⟨pending, lines, waiting, waits, within, settled⟩
      refine ⟨pending, lines, waiting, waits, ?_, settled⟩
      exact ((within.trans beside.sublist_right).trans (List.sublist_append_right _ _)).cons _
  | awaiting waits => exact ⟨_, _, _, waits, .refl _, settled⟩
  | awaitOff waits unfolds induction =>
      rcases List.mem_append.mp settled with settled | settled
      · exact ⟨_, _, _, waits, List.sublist_append_left _ _, settled⟩
      · rcases induction settled with ⟨pending, lines, waiting, waits, within, settled⟩
        exact ⟨pending, lines, waiting, waits, within.trans (List.sublist_append_right _ _),
          settled⟩

/-- A wait for Off polls until it is first told that its target is off, or once more than it may
retry, with a pause between each two polls. In a campaign, what succeeds at a step that turns
targets off are waits that have ended with a poll of their target that has shown Off, the first
to do so. -/
theorem success_comes_from_last_poll (gateway : Gateway) (real : gateway.simulation = false) :
    (∀ (target : Target) (pause retries : Nat) (answers : Nat → Http.Answer), target.host ≠ "" →
      let wait := (gateway.awaitOff target pause retries).trace inTurn answers
      let isOff (turn : Nat) :=
        (statusOf target (answers turn)).code = 0 ∧ (statusOf target (answers turn)).state = "Off"
      gateway.call .readState target =
        .ask (gateway.request target .get target.basePath)
          (fun answer => .done (statusOf target answer)) ∧
      (∀ index ≤ retries, isOff index → (∀ turn < index, ¬isOff turn) →
        wait.1 = gateway.polls target pause (upTo answers (index + 1)) ∧
          wait.2.1 = ⟨target, 0, "", "Off"⟩) ∧
      ((∀ turn ≤ retries, ¬isOff turn) →
        wait.1 = gateway.polls target pause (upTo answers (retries + 1)) ∧
          wait.2.1 =
            ⟨target, -1, "exceeded retries waiting for component to be Off", "Unknown"⟩)) ∧
    ∀ inventory transition targets stopped log ending,
      (course gateway.settings gateway.simulation inventory transition targets).Unfolds gateway
        stopped log ending →
      (∀ report, ending = some report →
        report.outcomes = (opening gateway.settings transition
          (.ofRequest inventory transition targets)).outcomes ++ finals false log) ∧
      ∀ line ∈ log, ∀ outcome, line.final? false = some outcome → outcome.code = 0 →
        (∃ step, step.isOff = false ∧ line = .returned step outcome) ∨
        (line = .settled outcome ∧ outcome = ⟨outcome.target, 0, "", "Off"⟩ ∧
          ∃ pending lines waiting events, Waits gateway pending lines waiting ∧
            lines.Sublist log ∧
            gateway.SeesOff outcome.target gateway.settings.options.offPause
              gateway.settings.options.offRetries events ∧
            Among gateway pending lines waiting outcome.target
              (asks outcome.target events ++ [.settled outcome])) := by
  constructor
  · intro target pause retries answers hosted wait isOff
    have confirms (turn : Nat) :
        confirmsOff (statusOf target (answers turn)) = true ↔ isOff turn := by
      simp [confirmsOff, isOff, Outcome.isOk, Outcome.stateOff]
    have denies (turn : Nat) :
        confirmsOff (statusOf target (answers turn)) = false ↔ ¬isOff turn := by
      rw [← confirms, Bool.not_eq_true]
    refine ⟨call_readState real hosted, fun index within shown earlier => ?_, fun never => ?_⟩
    · have held : wait = _ := trace_awaitOff_of_first real hosted within
        ((confirms index).mpr shown) fun turn less => (denies turn).mpr (earlier turn less)
      exact ⟨congrArg (·.1) held, congrArg (·.2.1) held⟩
    · have held : wait = _ := trace_awaitOff_of_never real hosted
        fun turn within => (denies turn).mpr (never turn within)
      exact ⟨congrArg (·.1) held, congrArg (·.2.1) held⟩
  · intro inventory transition targets stopped log ending unfolds
    constructor
    · rintro report rfl
      have tallies := tallies_ofRoster gateway.settings gateway.simulation transition
        (.ofRequest inventory transition targets)
      rw [← real]
      exact (unfolds.accounts tallies).outcomes
    · intro line written outcome final succeeded
      have ok : outcome.isOk = true := by simp [Outcome.isOk, succeeded]
      cases line with
      | began | asked => cases final
      | returned step result =>
          simp only [Line.final?] at final
          split at final
          · cases final
          · next unawaited =>
            cases final
            exact Or.inl ⟨step, by simpa [ok] using unawaited, rfl⟩
      | settled result =>
          cases final
          rcases unfolds.exists_waits written with ⟨pending, lines, waiting, waits, within, here⟩
          rcases waits.settled here with ⟨events, among, goes⟩
          have shown := goes_awaitOff_of_isOk real goes ok
          exact Or.inr ⟨rfl, shown.2, pending, lines, waiting, events, waits, within, shown.1,
            among⟩

theorem node_is_polled_until_off :
    let node : Target :=
      { xname := "x0c0s0b0n0", kind := .node, resource := .computerSystem, host := "a"
        resetTokens := ["Off"] }
    let gateway : Gateway := ⟨{}, false, "https"⟩
    let shows (state : String) : Http.Answer :=
      .reply ⟨200, [], Text.utf8 ("\x7b\"PowerState\":\"" ++ state ++ "\"\x7d")⟩
    let wait := gateway.awaitOff node 15 60
    (∃ later, wait.trace inTurn (fun turn => if turn = 0 then shows "On" else shows "Off") =
      (gateway.polls node 15 [shows "On", shows "Off"], ⟨node, 0, "", "Off"⟩, later)) ∧
    ∃ log report outcome,
      (course {} false none .off [node]).Unfolds gateway false log (some report) ∧
      outcome ∈ report.outcomes ∧ outcome.code = 0 ∧
      ∃ pending lines waiting events, gateway.SeesOff outcome.target 15 60 events ∧
        Among gateway pending lines waiting outcome.target
          (asks outcome.target events ++ [.settled outcome]) := by
  intro node gateway shows wait
  have last := success_comes_from_last_poll gateway rfl
  constructor
  · let answers (turn : Nat) : Http.Answer := if turn = 0 then shows "On" else shows "Off"
    have polled := (last.1 node 15 60 answers (by decide +kernel)).2.1 1 (by decide)
      (by decide +kernel) (by decide +kernel)
    exact ⟨_, Prod.ext polled.1 (Prod.ext polled.2 rfl)⟩
  · let start : Progress := { report := opening {} .off ⟨[node], []⟩ }
    let call := gateway.call (.change .off) node
    let ended := (wait.run scripted [shows "On", shows "Off"]).1
    let log : List Line := .began .off [node] ::
      ((asks node (call.trace scripted [shows "On"]).1 ++
        [.returned .off (call.run scripted [shows "On"]).1]) ++
          (asks node (wait.trace scripted [shows "On", shows "Off"]).1 ++ [.settled ended]))
    have goes : (course {} false none .off [node]).Goes gateway log
        (some (conclude .off (start.recordAll [ended]).report)) := by
      have split : stages {} = [] ++ ⟨.off, .node⟩ :: (stages {}).drop 1 := by decide +kernel
      apply goes_of_one_stage (by decide +kernel) split (by decide +kernel)
      exact goes_stage_alone
        (targets_eq_singleton (by decide +kernel) (mem_targets_of_entries.mpr
          ⟨List.mem_singleton_self _, by decide +kernel, rfl, List.not_mem_nil⟩))
        (goes_round_awaited scripted [shows "On"] .off node start rfl (by decide +kernel))
    rcases last.2 none .off [node] false _ _ goes.unfolds with ⟨recorded, successes⟩
    have member : .settled ended ∈ log := by simp [log]
    rcases successes _ member ended rfl (by decide +kernel) with
      ⟨_, _, same⟩ | ⟨_, _, pending, lines, waiting, events, _, _, sees, among⟩
    · cases same
    · have reported : ended ∈ (conclude .off (start.recordAll [ended]).report).outcomes := by
        rw [recorded _ rfl]
        exact List.mem_append_right _ (List.mem_filterMap.mpr ⟨_, member, rfl⟩)
      exact ⟨log, _, ended, goes.unfolds, reported, by decide +kernel, pending, lines, waiting,
        events, sees, among⟩

end ClusterPower.Campaign
