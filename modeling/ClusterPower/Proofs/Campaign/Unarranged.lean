import ClusterPower.Proofs.Campaign.Confluence
import ClusterPower.Proofs.Campaign.Precedence
import ClusterPower.Proofs.Campaign.Tally
import ClusterPower.Proofs.Coupling.Stability

/-!
Requests that an inventory adds nothing to. Where no module of the request powers its board, or
the transition is one that boards do not matter to, the names are left in their order, and each of
them finds the target that was requested.
-/

namespace ClusterPower.Campaign

open Conversation

variable {gateway : Gateway} {known : Inventory} {transition : Transition} {targets : List Target}

/-! ## Rosters -/

/-- The inventory brings no board into the request. -/
def Unarranged (known : Inventory) (transition : Transition) (targets : List Target) : Prop :=
  transition.isRestart = true ∨ transition = .nonMaskableInterrupt ∨
    ∀ target ∈ targets, Xname.kind target.xname = .routerModule →
      known.cabinetClass target.xname ≠ some .mountain ∧
        known.cabinetClass target.xname ≠ some .hill

theorem Unarranged.isOrdered (unarranged : Unarranged known transition targets)
    (moved : (transition.isOn || transition.isOff) = true) :
    Coupling.IsOrdered known transition (targets.map (·.xname)) := by
  intro module member powers
  rcases unarranged with restarts | rfl | elsewhere
  · cases transition with
    | restart | forceRestart => cases moved
    | on | off | forceOn | forceOff | nonMaskableInterrupt => cases restarts
  · cases moved
  · rcases List.mem_map.mp member with ⟨target, listed, rfl⟩
    rcases Coupling.powersBoard_iff.mp powers with ⟨router, mountain | hill⟩
    · exact absurd mountain (elsewhere target listed router).1
    · exact absurd hill (elsewhere target listed router).2

theorem resolve?_eq_some (distinct : (targets.map (·.xname)).Nodup) {target : Target}
    (listed : target ∈ targets) :
    Roster.resolve? known targets target.xname = some target := by
  rw [Roster.resolve?, described?_eq_some distinct listed]
  rfl

theorem ofRequest_eq_self (distinct : (targets.map (·.xname)).Nodup)
    (unarranged : Unarranged known transition targets) :
    Roster.ofRequest (some known) transition targets =
      Roster.ofRequest none transition targets := by
  have names := Coupling.arrange_eq_self distinct unarranged.isOrdered
  have found : (targets.map (·.xname)).filterMap (Roster.resolve? known targets) = targets := by
    rw [List.filterMap_map]
    exact (List.filterMap_congr fun target listed => resolve?_eq_some distinct listed).trans
      List.filterMap_some
  have missing : (targets.map (·.xname)).filter
      (fun xname => (Roster.resolve? known targets xname).isNone) = [] := by
    rw [List.filter_eq_nil_iff, List.forall_mem_map]
    intro target listed
    rw [resolve?_eq_some distinct listed]
    exact Bool.false_ne_true
  unfold Roster.ofRequest Roster.withBoards
  dsimp only
  rw [names, found, missing]

/-! ## Targets by name -/

def requestsTo (xname : String) (lines : List Line) : List Http.Request :=
  (exchangesWith (·.xname = xname) lines).map (·.1)

/-- Under each name the answers are those of its behaviour, whatever is asked meanwhile under
others. -/
def AnsweredBy (behaviours : String → Behaviour) (lines : List Line) : Prop :=
  ∀ xname, (behaviours xname).Gives (exchangesWith (·.xname = xname) lines)

section Named

variable {lines first second : List Line} {target : Target} {behaviours : String → Behaviour}
  (distinct : (targets.map (·.xname)).Nodup)

include distinct

theorem exchangesWith_name
    (asked : ∀ other request answer, .asked other request answer ∈ lines → other ∈ targets)
    (listed : target ∈ targets) :
    exchangesWith (·.xname = target.xname) lines = exchangesWith (· = target) lines := by
  apply List.filterMap_congr
  rintro ⟨other, exchange⟩ member
  rcases List.mem_filterMap.mp member with ⟨line, written, same⟩
  cases line with
  | asked =>
      cases same
      have named : other.xname = target.xname ↔ other = target :=
        ⟨fun same => List.inj_on_of_nodup_map distinct (asked _ _ _ written) listed same,
          congrArg Target.xname⟩
      simp only [named]
  | began | returned | settled => cases same

theorem AnsweredBy.eachAnswers (answered : AnsweredBy behaviours lines)
    (asked : ∀ other request answer, .asked other request answer ∈ lines → other ∈ targets) :
    EachAnswers (fun target => behaviours target.xname) lines := by
  intro target
  by_cases listed : target ∈ targets
  · rw [← exchangesWith_name distinct asked listed]
    exact answered target.xname
  · intro before request answer behind split
    have exchanged : (request, answer) ∈ exchangesWith (· = target) lines := by
      rw [split]
      exact List.mem_append_cons_self
    rcases mem_exchangesWith.mp exchanged with ⟨other, same, written⟩
    exact absurd (same ▸ asked _ _ _ written) listed

theorem requestsTo_congr
    (asked : ∀ other request answer, .asked other request answer ∈ first → other ∈ targets)
    (askedAgain : ∀ other request answer, .asked other request answer ∈ second → other ∈ targets)
    (same : ∀ target, requestsOf target first = requestsOf target second) (xname : String) :
    requestsTo xname first = requestsTo xname second := by
  by_cases named : ∃ target ∈ targets, target.xname = xname
  · rcases named with ⟨target, listed, rfl⟩
    rw [requestsTo, requestsTo, exchangesWith_name distinct asked listed,
      exchangesWith_name distinct askedAgain listed]
    exact same target
  · have nothing {lines : List Line}
        (asked : ∀ other request answer, .asked other request answer ∈ lines → other ∈ targets) :
        requestsTo xname lines = [] := by
      rw [requestsTo, List.map_eq_nil_iff, List.eq_nil_iff_forall_not_mem]
      intro exchange exchanged
      rcases mem_exchangesWith.mp exchanged with ⟨other, called, written⟩
      exact named ⟨other, asked _ _ _ written, called⟩
    rw [nothing asked, nothing askedAgain]

end Named

/-! ## Reports by rounds -/

theorem outcomes_eq_rounds {inventory : Option Inventory} {log : List Line} {report : Report}
    (goes : (course gateway.settings gateway.simulation inventory transition targets).Goes gateway
      log (some report)) :
    report.outcomes = (opening gateway.settings transition
        (.ofRequest inventory transition targets)).outcomes ++
      (roundsOf gateway.simulation log).flatMap (·.outcomes) := by
  have tallies := tallies_ofRoster gateway.settings gateway.simulation transition
    (.ofRequest inventory transition targets)
  have whole : leading log = [] := by
    rcases goes_stages goes with ⟨rfl, _⟩ | ⟨_, last, through, ended⟩
    · rfl
    · rcases ended report rfl with ⟨progress, rfl, _⟩
      exact (records_stages through).complete.leading_eq
  have outcomes := (goes.unfolds.accounts tallies).outcomes
  rw [List.nil_append, finals_eq_rounds, whole] at outcomes
  exact outcomes

/-! ## Campaigns -/

/-- An inventory that brings no board into a request of distinct names makes no difference. The
campaign is the same one, with the same requests in the same order in any world; and where the
replies to each target depend on its own requests only, two runs of it go through the same
rounds, with and without the inventory, and report the same but for the order within a round. -/
theorem inventory_makes_no_difference (gateway : Gateway) (known : Inventory)
    (transition : Transition) (targets : List Target)
    (distinct : (targets.map (·.xname)).Nodup)
    (unarranged : Unarranged known transition targets) :
    let course (inventory : Option Inventory) :=
      course gateway.settings gateway.simulation inventory transition targets
    let opened :=
      (opening gateway.settings transition (.ofRequest none transition targets)).outcomes
    course (some known) = course none ∧
    (∀ pool, run gateway pool (some known) transition targets =
      run gateway pool none transition targets) ∧
    ∀ behaviours first second report other,
      (course (some known)).Goes gateway first (some report) →
      (course none).Goes gateway second (some other) →
      AnsweredBy behaviours first → AnsweredBy behaviours second →
      List.Forall₂ Round.Agrees (roundsOf gateway.simulation first)
        (roundsOf gateway.simulation second) ∧
      report.outcomes = opened ++ (roundsOf gateway.simulation first).flatMap (·.outcomes) ∧
      other.outcomes = opened ++ (roundsOf gateway.simulation second).flatMap (·.outcomes) ∧
      report.failures = other.failures ∧ report.total = other.total ∧
      report.error = other.error ∧
      ∀ xname, requestsTo xname first = requestsTo xname second := by
  intro course opened
  have roster := ofRequest_eq_self distinct unarranged
  have same : course (some known) = course none := congrArg (ofRoster _ _ _) roster
  refine ⟨same, fun pool => congrArg (Course.carryOut gateway pool) same, ?_⟩
  intro behaviours first second report other goes goesAgain answered answeredAgain
  have reported := outcomes_eq_rounds goes
  rw [roster] at reported
  rw [same] at goes
  have asked {log : List Line} {ending : Report} (goes : (course none).Goes gateway log
      (some ending)) : ∀ target request answer, .asked target request answer ∈ log →
        target ∈ targets := by
    intro target request answer written
    rcases goes_stages goes with ⟨rfl, _⟩ | ⟨_, _, through, _⟩
    · cases written
    · rcases stage_of_asked through written with ⟨stage, _, failed, member⟩
      rw [targets_entriesOf] at member
      exact (List.mem_filter.mp member).1
  have single (target : Target) : targets.count target ≤ 1 :=
    List.nodup_iff_count_le_one.mp distinct.of_map target
  have alike := @alike_ofRoster gateway.settings gateway.simulation transition
    (.ofRequest none transition targets)
  rcases alike.agree_in_rounds gateway.simulation (fun target => Or.inr (single target)) goes
    goesAgain (answered.eachAnswers distinct (asked goes))
    (answeredAgain.eachAnswers distinct (asked goesAgain)) with ⟨⟨agrees, rounds⟩, shares⟩
  refine ⟨rounds.rounds, reported, outcomes_eq_rounds goesAgain, agrees.failures, agrees.total,
    agrees.error, requestsTo_congr distinct (asked goes) (asked goesAgain) fun target => ?_⟩
  rcases shares target with ⟨own, once, again⟩
  exact once.unique (single target) again

theorem river_module_is_turned_on_alone :
    let module : Target :=
      { xname := "x1c0r1", kind := .routerModule, host := "a", resetTokens := ["On"] }
    let known : Inventory := ⟨fun _ => some .river, fun _ => none⟩
    let gateway : Gateway := ⟨{}, false, "https"⟩
    (∀ pool, run gateway pool (some known) .on [module] = run gateway pool none .on [module]) ∧
    ∃ log report,
      (course {} false (some known) .on [module]).Goes gateway log (some report) ∧
      (course {} false none .on [module]).Goes gateway log (some report) ∧
      List.Forall₂ Round.Agrees (roundsOf false log) (roundsOf false log) ∧
      report.outcomes = (roundsOf false log).flatMap (·.outcomes) := by
  intro module known gateway
  have apart : Unarranged known .on [module] := Or.inr (Or.inr (by decide +kernel))
  rcases inventory_makes_no_difference gateway known .on [module] (by decide +kernel) apart with
    ⟨same, runs, agree⟩
  let answer : Http.Answer := .reply ⟨200, [], []⟩
  let world : World Unit := fun _ state => (answer, state)
  let call := gateway.call (.change .on) module
  let start : Progress := { report := opening {} .on ⟨[module], []⟩ }
  let log : List Line := .began .on [module] ::
    (asks module (call.trace world ()).1 ++ [.returned .on (call.run world ()).1])
  have goes : (course {} false none .on [module]).Goes gateway log
      (some (conclude .on (start.recordAll [(call.run world ()).1]).report)) := by
    have split : stages {} =
        (stages {}).take 19 ++ ⟨.on, .routerModule⟩ :: (stages {}).drop 20 := by
      decide +kernel
    apply goes_of_one_stage (by decide +kernel) split (by decide +kernel)
    exact goes_stage_alone
      (targets_eq_singleton (by decide +kernel) (mem_targets_of_entries.mpr
        ⟨List.mem_singleton_self _, by decide +kernel, rfl, List.not_mem_nil⟩))
      (goes_round_alone world () .on module start rfl)
  have equal : course {} false (some known) .on [module] = course {} false none .on [module] := same
  have beside := goes
  rw [← equal] at beside
  have answered : AnsweredBy (fun _ _ => answer) log := by
    intro xname before request given behind written
    have listed : (request, given) ∈ exchangesWith (·.xname = xname) log := by
      rw [written]
      exact List.mem_append_cons_self
    rcases mem_exchangesWith.mp listed with ⟨target, _, asked⟩
    have called := (List.mem_append.mp
      ((List.mem_cons.mp asked).resolve_left nofun)).resolve_right (by simp)
    exact answeredBy_asks answer _ () _ _ _ called
  have unopened : (opening {} .on ⟨[module], []⟩).outcomes = [] :=
    List.isEmpty_iff.mp (by decide +kernel)
  rcases agree _ log log _ _ beside goes answered answered with ⟨rounds, reported, _⟩
  refine ⟨runs, log, _, beside, goes, rounds, ?_⟩
  exact reported.trans (congrArg (· ++ _) unopened)

end ClusterPower.Campaign
