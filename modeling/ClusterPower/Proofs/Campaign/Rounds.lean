import ClusterPower.Proofs.Campaign.Lines
import ClusterPower.Proofs.Campaign.Sequence

/-!
Rounds follow one another. Before a round begins, every target of the rounds before it has
its final outcome: where targets are turned off, that of the wait that follows the call.
-/

namespace ClusterPower.Campaign

open Conversation

/-! ## Final outcomes -/

/-- The outcome that a line makes final. Where Off is waited for, a success of the call
itself is not. -/
def Line.final? (simulation : Bool) : Line → Option Outcome
  | returned step outcome =>
    if step.isOff && !simulation && outcome.isOk then none else some outcome
  | settled outcome => some outcome
  | _ => none

def finals (simulation : Bool) (lines : List Line) : List Outcome :=
  lines.filterMap (Line.final? simulation)

/-- The lines of whole rounds, in each of which every target has come to a final outcome. -/
inductive Complete (simulation : Bool) : List Line → Prop
  | nil : Complete simulation []
  | round {step batch lines rest} (inside : ∀ line ∈ lines, line.isBeginning = false)
      (final : ((finals simulation lines).map (·.target)).Perm batch)
      (complete : Complete simulation rest) :
      Complete simulation (.began step batch :: (lines ++ rest))

variable {gateway : Gateway} {simulation : Bool} {step : Transition}
  {batch : List Target} {progress after : Progress} {log : List Line}

theorem finals_append (simulation : Bool) (before after : List Line) :
    finals simulation (before ++ after) = finals simulation before ++ finals simulation after :=
  List.filterMap_append

theorem finals_subset (simulation : Bool) {part whole : List Line} (subset : part ⊆ whole) :
    finals simulation part ⊆ finals simulation whole :=
  List.filterMap_subset _ subset

theorem recordAll_append (progress : Progress) (before after : List Outcome) :
    (progress.recordAll before).recordAll after = progress.recordAll (before ++ after) :=
  List.foldl_append.symm

theorem failures_eq_self {outcomes : List Outcome} (nothing : outcomes.filter Outcome.isOk = []) :
    outcomes.filter (fun outcome => !outcome.isOk) = outcomes := by
  rw [List.filter_eq_self]
  rw [List.filter_eq_nil_iff] at nothing
  intro outcome member
  simpa using nothing outcome member

theorem Complete.append {before after : List Line} (first : Complete simulation before)
    (second : Complete simulation after) : Complete simulation (before ++ after) := by
  induction first with
  | nil => exact second
  | round inside final _ induction =>
      rw [List.cons_append, List.append_assoc]
      exact .round inside final induction

/-! ## Lines of a round -/

/-- A line that may stand in a round, behind its beginning. -/
inductive Line.BelongsTo (step : Transition) (batch : List Target) : Line → Prop
  | asked {target request answer} (member : target ∈ batch) :
      BelongsTo step batch (.asked target request answer)
  | returned {outcome} : BelongsTo step batch (.returned step outcome)
  | settled {outcome} (off : step.isOff = true) : BelongsTo step batch (.settled outcome)

theorem Line.BelongsTo.inside {line : Line} (belongs : line.BelongsTo step batch) :
    line.isBeginning = false := by
  cases belongs <;> rfl

/-- A wait that ends well follows a success of the call, and has been answered with Off. -/
def Confirmed (gateway : Gateway) (step : Transition) (lines : List Line) : Prop :=
  ∀ outcome, .settled outcome ∈ lines → outcome.isOk = true →
    ∃ first request answer, first.isOk = true ∧ first.target = outcome.target ∧
      gateway.ShowsOff outcome.target request answer ∧
      [.returned step first, .asked outcome.target request answer].Sublist lines

section Sends

variable {targets : List Target} {lines : List Line} {outcomes : List Outcome}
  {ending : Option (List Outcome)}

theorem Sends.belongs (sends : Sends gateway step batch lines ending) :
    ∀ line ∈ lines, line.BelongsTo step batch := by
  intro line member
  rcases sends.cases_line member with ⟨target, listed, request, answer, rfl⟩ | ⟨outcome, rfl⟩
  · exact .asked listed
  · exact .returned

theorem Sends.inside (sends : Sends gateway step batch lines ending) :
    ∀ line ∈ lines, line.isBeginning = false :=
  fun line member => (sends.belongs line member).inside

theorem finals_ofRemarks (simulation : Bool) (step : Transition) (owner : Nat → Option Unit)
    (log : List (FanOut.Remark Unit)) :
    finals simulation (log.filterMap (Line.ofRemark? owner step)) =
      ((log.flatMap (FanOut.Remark.reportsAt ())).map (·.outcome)).filter
        fun outcome => !(step.isOff && !simulation && outcome.isOk) := by
  rw [← returned_ofRemarks step owner log, List.filter_filterMap, finals]
  apply List.filterMap_congr
  intro line member
  rcases cases_ofRemarks member with ⟨target, request, answer, rfl⟩ | ⟨outcome, rfl⟩
  · rfl
  · simp only [Line.final?, Line.returned?, Option.filter_some, Bool.not_eq_eq_eq_not,
      Bool.not_true]
    cases step.isOff && !simulation && outcome.isOk <;> rfl

theorem Sends.finals_eq (sends : Sends gateway step batch lines (some outcomes)) :
    finals simulation lines =
      outcomes.filter fun outcome => !(step.isOff && !simulation && outcome.isOk) := by
  cases sends with
  | sent sending returned => rw [finals_ofRemarks, sending.reaches.received_eq sending.opens]

theorem Sends.mem_of_succeeded (sends : Sends gateway step batch lines (some outcomes)) :
    ∀ target ∈ (outcomes.filter Outcome.isOk).map (·.target), target ∈ batch :=
  fun _ member => sends.perm.subset ((List.filter_sublist.map _).subset member)

theorem Sends.confirmed (sends : Sends gateway step batch lines ending) :
    Confirmed gateway step lines := by
  intro outcome settled
  rcases sends.cases_line settled with ⟨_, _, _, _, equal⟩ | ⟨_, equal⟩
  · cases equal
  · cases equal

theorem Waits.finals_eq {waiting : List Wait}
    (waits : Waits gateway targets lines waiting) :
    finals simulation lines = lines.filterMap Line.settled? := by
  apply List.filterMap_congr
  intro line member
  rcases waits.cases_line member with ⟨target, _, request, answer, rfl⟩ | ⟨outcome, rfl⟩
  · rfl
  · rfl

theorem Waits.inside {waiting : List Wait} (waits : Waits gateway targets lines waiting) :
    ∀ line ∈ lines, line.isBeginning = false := by
  intro line member
  rcases waits.cases_line member with ⟨target, _, request, answer, rfl⟩ | ⟨outcome, rfl⟩
  · rfl
  · rfl

theorem Waits.belongs {waiting : List Wait} (waits : Waits gateway targets lines waiting)
    (part : ∀ target ∈ targets, target ∈ batch) (off : step.isOff = true) :
    ∀ line ∈ lines, line.BelongsTo step batch := by
  intro line member
  rcases waits.cases_line member with ⟨target, listed, request, answer, rfl⟩ | ⟨outcome, rfl⟩
  · exact .asked (part target listed)
  · exact .settled off

theorem Waits.confirmed {before : List Line} {waiting : List Wait}
    (sends : Sends gateway step batch before (some outcomes))
    (waits : Waits gateway ((outcomes.filter Outcome.isOk).map (·.target)) lines waiting) :
    Confirmed gateway step (before ++ lines) := by
  intro outcome settled ok
  have settled : .settled outcome ∈ lines := by
    rcases List.mem_append.mp settled with settled | settled
    · rcases sends.cases_line settled with ⟨_, _, _, _, equal⟩ | ⟨_, equal⟩
      · cases equal
      · cases equal
    · exact settled
  rcases waits.watches.settled _ settled ok with ⟨request, answer, shows, asked⟩
  have ended : outcome ∈ lines.filterMap Line.settled? :=
    List.mem_filterMap.mpr ⟨_, settled, rfl⟩
  have listed := waits.perm.subset
    (List.mem_append_left _ (List.mem_map_of_mem (f := (·.target)) ended))
  rcases List.mem_map.mp listed with ⟨first, succeeded, same⟩
  rw [List.mem_filter, ← sends.returned_eq, List.mem_filterMap] at succeeded
  rcases succeeded with ⟨⟨line, written, found⟩, firstOk⟩
  have returned : .returned step first ∈ before := by
    rcases sends.cases_line written with ⟨_, _, _, _, rfl⟩ | ⟨_, rfl⟩
    · cases found
    · cases found
      exact written
  exact ⟨first, request, answer, firstOk, same, shows,
    (List.singleton_sublist.mpr returned).append (List.singleton_sublist.mpr asked)⟩

end Sends

/-! ## One round -/

/-- What a round has written behind its beginning, and what it has come to when it is over. -/
structure InRound (gateway : Gateway) (simulation : Bool) (step : Transition)
    (batch : List Target) (progress : Progress) (lines : List Line) (ending : Option Progress) :
    Prop where
  belongs : ∀ line ∈ lines, line.BelongsTo step batch
  confirmed : Confirmed gateway step lines
  final : ∀ after, ending = some after →
    ((finals simulation lines).map (·.target)).Perm batch
  recorded : ∀ after, ending = some after →
    after = progress.recordAll (finals simulation lines)

theorem inRound_of_none {lines : List Line}
    (belongs : ∀ line ∈ lines, line.BelongsTo step batch)
    (confirmed : Confirmed gateway step lines) :
    InRound gateway simulation step batch progress lines none where
  belongs := belongs
  confirmed := confirmed
  final _ finished := by cases finished
  recorded _ finished := by cases finished

theorem inRound_of_done {lines later : List Line} {result : Progress} {ending : Option Progress}
    (goes : (Course.done result).Goes gateway later ending)
    (belongs : ∀ line ∈ lines, line.BelongsTo step batch)
    (confirmed : Confirmed gateway step lines)
    (final : ((finals simulation lines).map (·.target)).Perm batch)
    (recorded : result = progress.recordAll (finals simulation lines)) :
    InRound gateway simulation step batch progress (lines ++ later) ending := by
  cases goes with
  | still =>
      rw [List.append_nil]
      exact inRound_of_none belongs confirmed
  | done =>
      rw [List.append_nil]
      refine ⟨belongs, confirmed, fun _ _ => final, fun after finished => ?_⟩
      cases finished
      exact recorded

theorem inRound_of_waited {lines waited later : List Line} {outcomes : List Outcome}
    {ending : Option Progress} (off : step.isOff = true) (real : simulation = false)
    (sends : Sends gateway step batch lines (some outcomes))
    (waits : Waits gateway ((outcomes.filter Outcome.isOk).map (·.target)) waited [])
    (goes : (Course.done
      ((progress.recordAll (outcomes.filter fun outcome => !outcome.isOk)).recordAll
        (waited.filterMap Line.settled?))).Goes gateway later ending) :
    InRound gateway simulation step batch progress ((lines ++ waited) ++ later) ending := by
  have all : finals simulation (lines ++ waited) =
      (outcomes.filter fun outcome => !outcome.isOk) ++ waited.filterMap Line.settled? := by
    rw [finals_append, sends.finals_eq, waits.finals_eq]
    simp [off, real]
  have settled : ((waited.filterMap Line.settled?).map (·.target)).Perm
      ((outcomes.filter Outcome.isOk).map (·.target)) := by
    simpa using waits.perm
  refine inRound_of_done goes
    (List.forall_mem_append.mpr ⟨sends.belongs, waits.belongs sends.mem_of_succeeded off⟩)
    (waits.confirmed sends) ?_ ?_
  · rw [all, List.map_append]
    refine ((settled.append_left _).trans ?_).trans sends.perm
    rw [← List.map_append]
    apply List.Perm.map
    exact List.perm_append_comm.trans (List.filter_append_perm Outcome.isOk outcomes)
  · rw [all, recordAll_append]

theorem goes_round {ending : Option Progress}
    (goes : (round simulation step batch progress).Goes gateway log ending) :
    (log = [] ∧ ending = none) ∨ ∃ lines, log = .began step batch :: lines ∧
      InRound gateway simulation step batch progress lines ending := by
  unfold round at goes
  cases goes with
  | still => exact Or.inl ⟨rfl, rfl⟩
  | changing sends => exact Or.inr ⟨_, rfl, inRound_of_none sends.belongs sends.confirmed⟩
  | @change _ _ _ lines outcomes later _ sends goes =>
      refine Or.inr ⟨_, rfl, ?_⟩
      have sent : finals simulation lines = _ := sends.finals_eq
      by_cases waits : (step.isOff && !simulation) = true
      · simp only [waits, if_true] at goes
        simp only [waits, Bool.true_and] at sent
        split at goes
        · next nothing =>
          have failed := failures_eq_self nothing
          apply inRound_of_done goes sends.belongs sends.confirmed
          · rw [sent, failed]
            exact sends.perm
          · rw [sent]
        · rw [Bool.and_eq_true, Bool.not_eq_true'] at waits
          cases goes with
          | still =>
              rw [List.append_nil]
              exact inRound_of_none sends.belongs sends.confirmed
          | awaiting polls =>
              exact inRound_of_none
                (List.forall_mem_append.mpr
                  ⟨sends.belongs, polls.belongs sends.mem_of_succeeded waits.1⟩)
                (polls.confirmed sends)
          | awaitOff polls goes =>
              rw [← List.append_assoc]
              exact inRound_of_waited waits.1 waits.2 sends polls goes
      · simp only [if_neg waits] at goes
        simp only [waits, Bool.false_and, Bool.not_false, List.filter_true] at sent
        apply inRound_of_done goes sends.belongs sends.confirmed
        · rw [sent]
          exact sends.perm
        · rw [sent]

section Alone

variable {State : Type} (world : World State) (state : State) (step : Transition)
  (target : Target) (progress : Progress)

theorem goes_round_alone (unawaited : (step.isOff && !simulation) = false) :
    let call := gateway.call (.change step) target
    (round simulation step [target] progress).Goes gateway
      (.began step [target] :: (asks target (call.trace world state).1 ++
        [.returned step (call.run world state).1]))
      (some (progress.recordAll [(call.run world state).1])) := by
  intro call
  have sends := sends_each world step gateway [(target, state)]
  simp only [List.map_cons, List.map_nil, List.flatMap_singleton] at sends
  rw [← List.append_nil (asks target _ ++ _)]
  apply Course.Goes.change sends
  rw [if_neg (by simp [unawaited])]
  exact .done _

theorem goes_round_awaited (awaited : (step.isOff && !simulation) = true) {later : State}
    (ok : ((gateway.call (.change step) target).run world state).1.isOk = true) :
    let call := gateway.call (.change step) target
    let wait := gateway.awaitOff target gateway.settings.options.offPause
      gateway.settings.options.offRetries
    (round simulation step [target] progress).Goes gateway
      (.began step [target] :: ((asks target (call.trace world state).1 ++
        [.returned step (call.run world state).1]) ++
          (asks target (wait.trace world later).1 ++ [.settled (wait.run world later).1])))
      (some (progress.recordAll [(wait.run world later).1])) := by
  intro call wait
  have own := gateway.regards_call (.change step) target _ (call.mayEnd_run world state)
  have sends := sends_each world step gateway [(target, state)]
  rcases waits_each world gateway [(target, later)] with ⟨waits, settled⟩
  simp only [List.map_cons, List.map_nil, List.flatMap_singleton] at sends waits settled
  rw [← List.append_nil (asks target (wait.trace world later).1 ++ _)]
  apply Course.Goes.change sends
  rw [if_pos awaited]
  simp only [List.filter_cons, List.filter_nil, ok, if_true, Bool.not_true, Bool.false_eq_true,
    if_false]
  rw [List.map_singleton, own]
  refine .awaitOff waits ?_
  rw [settled]
  exact .done _

end Alone

/-! ## Parts that are over -/

/-- Whole rounds, of which the final outcomes have been recorded. -/
structure Records (simulation : Bool) (progress : Progress) (log : List Line)
    (after : Progress) : Prop where
  complete : Complete simulation log
  recorded : after = progress.recordAll (finals simulation log)

theorem records_round
    (goes : (round simulation step batch progress).Goes gateway log (some after)) :
    Records simulation progress log after := by
  rcases goes_round goes with ⟨_, finished⟩ | ⟨lines, rfl, inRound⟩
  · cases finished
  · have complete := @Complete.round _ step _ _ _
      (fun line member => (inRound.belongs line member).inside) (inRound.final _ rfl) .nil
    rw [List.append_nil] at complete
    exact ⟨complete, inRound.recorded _ rfl⟩

theorem records_through {Item : Type} {body : Item → Progress → Course Progress}
    (each : ∀ item start log ending, (body item start).Goes gateway log (some ending) →
      Records simulation start log ending)
    {items : List Item}
    (goes : (Course.through body items progress).Goes gateway log (some after)) :
    Records simulation progress log after := by
  induction items generalizing progress log with
  | nil =>
      cases goes
      exact ⟨.nil, rfl⟩
  | cons item rest induction =>
      rcases Course.Goes.of_bind goes with
        ⟨_, finished⟩ | ⟨first, middle, later, here, remaining, rfl⟩
      · cases finished
      · have before := each item progress first middle here
        have behind := induction remaining
        refine ⟨before.complete.append behind.complete, ?_⟩
        rw [behind.recorded, before.recorded, recordAll_append, finals_append]

section Stage

variable {entries : List Entry} {stage : Stage} {target : Target} {line : Line}

theorem records_stage
    (goes : (stage.course simulation entries progress).Goes gateway log (some after)) :
    Records simulation progress log after :=
  records_through (fun _ _ _ _ => records_round) goes

theorem records_stages {stages : List Stage}
    (goes : (Course.through (Stage.course simulation entries) stages progress).Goes gateway log
      (some after)) :
    Records simulation progress log after :=
  records_through (fun _ _ _ _ => records_stage) goes

theorem round_of_through {batchOf : List String → List Target} {rounds : List (List String)}
    {names : List String}
    (goes : (Course.through (fun names => round simulation step (batchOf names)) rounds
      progress).Goes gateway log (some after))
    (listed : names ∈ rounds) :
    ∃ before start ending lines behind,
      InRound gateway simulation step (batchOf names) start lines (some ending) ∧
      log = before ++ .began step (batchOf names) :: (lines ++ behind) := by
  rcases List.append_of_mem listed with ⟨front, behind, rfl⟩
  rw [Course.through_append] at goes
  rcases Course.Goes.of_bind goes with ⟨_, finished⟩ | ⟨first, start, rest, _, remaining, rfl⟩
  · cases finished
  rcases Course.Goes.of_bind remaining with ⟨_, finished⟩ | ⟨here, ending, later, round, _, rfl⟩
  · cases finished
  · rcases goes_round round with ⟨_, finished⟩ | ⟨lines, rfl, inRound⟩
    · cases finished
    · exact ⟨first, start, ending, lines, later, inRound, rfl⟩

theorem round_of_stage
    (goes : (stage.course simulation entries progress).Goes gateway log (some after))
    (member : target ∈ stage.targets entries progress.failed) :
    ∃ before batch start ending lines behind, target ∈ batch ∧
      InRound gateway simulation stage.step batch start lines (some ending) ∧
      log = before ++ .began stage.step batch :: (lines ++ behind) := by
  have named := List.mem_map_of_mem (f := Target.xname) member
  rw [← Coupling.flatten_rounds ((stage.targets entries progress.failed).map (·.xname)),
    List.mem_flatten] at named
  rcases named with ⟨names, listed, named⟩
  rcases round_of_through goes listed with ⟨before, start, ending, lines, behind, inRound, rfl⟩
  refine ⟨before, _, start, ending, lines, behind, ?_, inRound, rfl⟩
  exact List.mem_filter.mpr ⟨member, List.contains_iff_mem.mpr named⟩

theorem cases_line_of_stage {before behind : List Line} {ending : Option Progress}
    (goes : (stage.course simulation entries progress).Goes gateway (before ++ line :: behind)
      ending) :
    ∃ done batch lines, Complete simulation done ∧
      (∀ target ∈ batch, target ∈ stage.targets entries progress.failed) ∧
      ((line = .began stage.step batch ∧ before = done ∧ lines = []) ∨
        (line.BelongsTo stage.step batch ∧
          before = done ++ .began stage.step batch :: lines ∧
          ∀ line ∈ lines, line.isBeginning = false)) := by
  rcases Course.Goes.of_through goes with
    ⟨front, names, others, first, middle, second, third, rest, here, _, rfl, rfl, finished, goes, _⟩
  have part : ∀ target ∈ (stage.targets entries progress.failed).filter
      (fun target => names.contains target.xname), target ∈ stage.targets entries progress.failed :=
    fun target member => List.mem_of_mem_filter member
  have complete : Complete simulation first :=
    (records_through (fun _ _ _ _ => records_round) finished).complete
  rcases goes_round goes with ⟨nothing, _⟩ | ⟨lines, written, inRound⟩
  · simp at nothing
  · cases second with
    | nil =>
        cases written
        exact ⟨first, _, [], complete, part, Or.inl ⟨rfl, List.append_nil _, rfl⟩⟩
    | cons head second =>
        cases written
        refine ⟨first, _, second, complete, part, Or.inr ⟨?_, rfl, ?_⟩⟩
        · exact inRound.belongs line (by simp)
        · intro line member
          exact (inRound.belongs line (List.mem_append_left _ member)).inside

theorem exists_mem_targets {ending : Option Progress}
    (goes : (stage.course simulation entries progress).Goes gateway log ending)
    (member : line ∈ log) : ∃ target, target ∈ stage.targets entries progress.failed := by
  apply List.exists_mem_of_ne_nil
  intro nobody
  unfold Stage.course at goes
  dsimp only at goes
  rw [nobody] at goes
  rw [(Course.goes_done goes).1] at member
  cases member

theorem mem_targets_of_asked {request : Http.Request} {answer : Http.Answer}
    {ending : Option Progress}
    (goes : (stage.course simulation entries progress).Goes gateway log ending)
    (asked : .asked target request answer ∈ log) :
    target ∈ stage.targets entries progress.failed := by
  rcases List.append_of_mem asked with ⟨before, behind, rfl⟩
  rcases cases_line_of_stage goes with ⟨_, batch, _, _, part, ⟨began, _⟩ | ⟨belongs, _⟩⟩
  · cases began
  · cases belongs with
    | asked member => exact part target member

end Stage

end ClusterPower.Campaign
