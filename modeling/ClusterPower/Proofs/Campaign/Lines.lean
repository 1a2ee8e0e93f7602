import ClusterPower.Proofs.Bmc.Confirmation
import ClusterPower.Proofs.Campaign.Runs
import ClusterPower.Proofs.FanOut.Dialogue

/-!
A campaign line by line. The log holds every request in the order in which they are sent,
while the calls of a round and the waits that follow it go on side by side. A log may end at
any moment. It is that of a campaign whose pool is not stopped; between two rounds the pool
may come to any other state, since it may have other users. Whatever carrying out a course comes
to is the end of one of its logs.
-/

namespace ClusterPower.Campaign

open Conversation FanOut

/-! ## Lines -/

inductive Line where
  | began (step : Transition) (targets : List Target)
  | asked (target : Target) (request : Http.Request) (answer : Http.Answer)
  | returned (step : Transition) (outcome : Outcome)
  | settled (outcome : Outcome)

namespace Line

def isBeginning : Line → Bool
  | began _ _ => true
  | _ => false

def returned? : Line → Option Outcome
  | returned _ outcome => some outcome
  | _ => none

def settled? : Line → Option Outcome
  | settled outcome => some outcome
  | _ => none

/-- The line of a remark on a call of the campaign. The calls of others leave no line. -/
def ofRemark? (owner : Nat → Option Unit) (step : Transition) : Remark Unit → Option Line
  | .asked job request answer =>
    if owner job.number = some () then some (asked job.target request answer) else none
  | .read _ report => some (returned step report.outcome)

end Line

/-! ## Sending -/

variable (gateway : Gateway)

/-- A step is being sent to targets. -/
structure Sending (step : Transition) (targets : List Target) (owner : Nat → Option Unit)
    (opening : Dialogue Unit) (log : List (Remark Unit)) (dialogue : Dialogue Unit) : Prop where
  opens : Opens owner (fun _ => .same (.change step) targets) opening.traffic
  coherent : opening.Coherent gateway
  reaches : Dialogue.Reaches owner gateway opening log dialogue
  going : dialogue.traffic.pool.stopped = false

/-- The lines while a step is sent to targets, with the outcomes once all are there. -/
inductive Sends (step : Transition) (targets : List Target) :
    List Line → Option (List Outcome) → Prop
  | sending {owner opening log dialogue}
      (sending : Sending gateway step targets owner opening log dialogue) :
      Sends step targets (log.filterMap (Line.ofRemark? owner step)) none
  | sent {owner opening log dialogue}
      (sending : Sending gateway step targets owner opening log dialogue)
      (returned : dialogue.traffic.HasReturned owner ()) :
      Sends step targets (log.filterMap (Line.ofRemark? owner step))
        (some ((dialogue.traffic.callers ()).received.map (·.outcome)))

/-! ## Waiting -/

/-- What is left of the wait for a target. -/
structure Wait where
  target : Target
  rest : Conversation Outcome

/-- The lines while targets are waited for, with the waits that have not ended. -/
inductive Waits (targets : List Target) : List Line → List Wait → Prop
  | begin : Waits targets [] (targets.map fun target =>
      ⟨target, gateway.awaitOff target gateway.settings.options.offPause
        gateway.settings.options.offRetries⟩)
  | ask {lines before behind target request next}
      (waits : Waits targets lines (before ++ ⟨target, .ask request next⟩ :: behind))
      (answer : Http.Answer) :
      Waits targets (lines ++ [.asked target request answer])
        (before ++ ⟨target, next answer⟩ :: behind)
  | pause {lines before behind target seconds next}
      (waits : Waits targets lines (before ++ ⟨target, .pause seconds next⟩ :: behind)) :
      Waits targets lines (before ++ ⟨target, next⟩ :: behind)
  | settle {lines before behind target outcome}
      (waits : Waits targets lines (before ++ ⟨target, .done outcome⟩ :: behind)) :
      Waits targets (lines ++ [.settled outcome]) (before ++ behind)

/-! ## Courses -/

/-- The lines of a course up to some moment, with its result if it is over. -/
inductive Course.Goes {Result : Type} : Course Result → List Line → Option Result → Prop
  | still (course : Course Result) : Goes course [] none
  | done (result : Result) : Goes (.done result) [] (some result)
  | changing {step targets next lines} (sends : Sends gateway step targets lines none) :
      Goes (.change step targets next) (.began step targets :: lines) none
  | change {step targets next lines outcomes log ending}
      (sends : Sends gateway step targets lines (some outcomes))
      (goes : Goes (next outcomes) log ending) :
      Goes (.change step targets next) (.began step targets :: (lines ++ log)) ending
  | awaiting {targets next lines waiting} (waits : Waits gateway targets lines waiting) :
      Goes (.awaitOff targets next) lines none
  | awaitOff {targets next lines log ending} (waits : Waits gateway targets lines [])
      (goes : Goes (next (lines.filterMap Line.settled?)) log ending) :
      Goes (.awaitOff targets next) (lines ++ log) ending

variable {gateway}

/-! ## What is written while a step is sent -/

section Sends

variable {step : Transition} {targets : List Target} {lines : List Line}
  {outcomes : List Outcome} {ending : Option (List Outcome)}

theorem cases_ofRemarks {owner : Nat → Option Unit} {log : List (Remark Unit)} {line : Line}
    (written : line ∈ log.filterMap (Line.ofRemark? owner step)) :
    (∃ target request answer, line = .asked target request answer) ∨
      ∃ outcome, line = .returned step outcome := by
  rcases List.mem_filterMap.mp written with ⟨remark, _, written⟩
  cases remark with
  | asked job request answer =>
      simp only [Line.ofRemark?, Option.ite_none_right_eq_some, Option.some.injEq] at written
      exact Or.inl ⟨_, _, _, written.2.symm⟩
  | read place report =>
      cases written
      exact Or.inr ⟨_, rfl⟩

theorem Sends.cases_line (sends : Sends gateway step targets lines ending) {line : Line}
    (member : line ∈ lines) :
    (∃ target ∈ targets, ∃ request answer, line = .asked target request answer) ∨
      ∃ outcome, line = .returned step outcome := by
  have written {owner : Nat → Option Unit} {opening dialogue : Dialogue Unit}
      {log : List (Remark Unit)} (sending : Sending gateway step targets owner opening log dialogue)
      (member : line ∈ log.filterMap (Line.ofRemark? owner step)) :
      (∃ target ∈ targets, ∃ request answer, line = .asked target request answer) ∨
        ∃ outcome, line = .returned step outcome := by
    rcases List.mem_filterMap.mp member with ⟨remark, noted, written⟩
    cases remark with
    | asked job request answer =>
        simp only [Line.ofRemark?, Option.ite_none_right_eq_some, Option.some.injEq] at written
        have called := sending.reaches.asked sending.opens sending.coherent noted written.1
        simp only [FanOut.Request.calls, callsOf, List.mem_map, Prod.mk.injEq] at called
        rcases called with ⟨target, listed, same, _⟩
        exact Or.inl ⟨target, listed, request, answer, by rw [← written.2, same]⟩
    | read place report =>
        cases written
        exact Or.inr ⟨report.outcome, rfl⟩
  cases sends with
  | sending sending => exact written sending member
  | sent sending returned => exact written sending member

theorem returned_ofRemarks (step : Transition) (owner : Nat → Option Unit)
    (log : List (Remark Unit)) :
    (log.filterMap (Line.ofRemark? owner step)).filterMap Line.returned? =
      (log.flatMap (Remark.reportsAt ())).map (·.outcome) := by
  rw [List.filterMap_filterMap, List.map_flatMap, List.filterMap_eq_flatMap_toList]
  congr 1
  funext remark
  cases remark with
  | asked job request answer =>
      simp only [Line.ofRemark?, Remark.reportsAt]
      split <;> rfl
  | read place report => simp [Line.ofRemark?, Line.returned?, Remark.reportsAt]

theorem Sends.returned_eq (sends : Sends gateway step targets lines (some outcomes)) :
    lines.filterMap Line.returned? = outcomes := by
  cases sends with
  | sent sending returned => rw [returned_ofRemarks, sending.reaches.received_eq sending.opens]

theorem Sends.perm (sends : Sends gateway step targets lines (some outcomes)) :
    (outcomes.map (·.target)).Perm targets := by
  cases sends with
  | sent sending returned =>
      have answers := (sending.reaches.traffic sending.coherent).answers_same sending.opens rfl
        returned sending.going
      have named := answers.perm_map id (·.target) fun target _ outcome ends =>
        gateway.regards_call _ target outcome ends
      rwa [List.map_id] at named

end Sends

/-! ## What is written while targets are waited for -/

/-- A poll of the target has been answered with Off. -/
def SeenOff (gateway : Gateway) (lines : List Line) (target : Target) : Prop :=
  ∃ request answer, gateway.ShowsOff target request answer ∧
    .asked target request answer ∈ lines

theorem SeenOff.append {lines later : List Line} {target : Target}
    (seen : SeenOff gateway lines target) : SeenOff gateway (lines ++ later) target := by
  rcases seen with ⟨request, answer, shows, asked⟩
  exact ⟨request, answer, shows, List.mem_append_left _ asked⟩


namespace Waits

variable {targets : List Target} {lines : List Line} {waiting : List Wait}

theorem all (waits : Waits gateway targets lines waiting) (holds : Wait → Prop)
    (begins : ∀ target ∈ targets, holds ⟨target, gateway.awaitOff target
      gateway.settings.options.offPause gateway.settings.options.offRetries⟩)
    (asks : ∀ target request next answer, holds ⟨target, .ask request next⟩ →
      holds ⟨target, next answer⟩)
    (pauses : ∀ target seconds next, holds ⟨target, .pause seconds next⟩ →
      holds ⟨target, next⟩) :
    ∀ wait ∈ waiting, holds wait := by
  induction waits with
  | begin =>
      intro wait member
      rcases List.mem_map.mp member with ⟨target, listed, rfl⟩
      exact begins target listed
  | ask waits answer induction =>
      rw [List.forall_mem_append, List.forall_mem_cons] at induction ⊢
      exact ⟨induction.1, asks _ _ _ _ induction.2.1, induction.2.2⟩
  | pause waits induction =>
      rw [List.forall_mem_append, List.forall_mem_cons] at induction ⊢
      exact ⟨induction.1, pauses _ _ _ induction.2.1, induction.2.2⟩
  | settle waits induction =>
      rw [List.forall_mem_append, List.forall_mem_cons] at induction
      rw [List.forall_mem_append]
      exact ⟨induction.1, induction.2.2⟩

theorem mem_targets (waits : Waits gateway targets lines waiting) :
    ∀ wait ∈ waiting, wait.target ∈ targets :=
  waits.all (·.target ∈ targets) (fun _ listed => listed) (fun _ _ _ _ listed => listed)
    fun _ _ _ listed => listed

theorem regards (waits : Waits gateway targets lines waiting) :
    ∀ wait ∈ waiting, wait.rest.Regards wait.target := by
  apply waits.all fun wait => wait.rest.Regards wait.target
  · intro target _
    exact gateway.regards_awaitOff target _ _
  · intro target request next answer regards outcome ends
    exact regards outcome ⟨answer, ends⟩
  · intro target seconds next regards
    exact regards

theorem cases_line (waits : Waits gateway targets lines waiting) {line : Line}
    (member : line ∈ lines) :
    (∃ target ∈ targets, ∃ request answer, line = .asked target request answer) ∨
      ∃ outcome, line = .settled outcome := by
  induction waits with
  | begin => cases member
  | ask waits answer induction =>
      rcases List.mem_append.mp member with member | member
      · exact induction member
      · have listed := waits.mem_targets _ (List.mem_append_right _ List.mem_cons_self)
        exact Or.inl ⟨_, listed, _, _, List.mem_singleton.mp member⟩
  | pause waits induction => exact induction member
  | settle waits induction =>
      rcases List.mem_append.mp member with member | member
      · exact induction member
      · exact Or.inr ⟨_, List.mem_singleton.mp member⟩

theorem perm (waits : Waits gateway targets lines waiting) :
    ((lines.filterMap Line.settled?).map (·.target) ++ waiting.map (·.target)).Perm targets := by
  induction waits with
  | begin =>
      rw [List.map_map]
      exact .of_eq (List.map_id _)
  | ask waits answer induction => simpa [List.filterMap_cons, Line.settled?] using induction
  | pause waits induction => simpa using induction
  | settle waits induction =>
      have regards := waits.regards _ (List.mem_append_right _ List.mem_cons_self) _ rfl
      refine List.Perm.trans ?_ induction
      simp only [List.filterMap_append, List.map_append, List.map_cons, List.append_assoc]
      apply List.Perm.append_left
      simpa [Line.settled?, regards] using List.perm_middle.symm

/-- No wait ends well before its target has been seen to be off, neither one that is over nor one
that goes on. -/
structure Watches (gateway : Gateway) (lines : List Line) (waiting : List Wait) : Prop where
  pending : ∀ wait ∈ waiting,
    gateway.Confirms wait.target (SeenOff gateway lines wait.target) wait.rest
  settled : ∀ outcome, .settled outcome ∈ lines → outcome.isOk = true →
    SeenOff gateway lines outcome.target

theorem watches (waits : Waits gateway targets lines waiting) :
    Watches gateway lines waiting := by
  induction waits with
  | begin =>
      refine ⟨fun wait member => ?_, fun _ member => by cases member⟩
      rcases List.mem_map.mp member with ⟨target, _, rfl⟩
      exact (gateway.confirms_awaitOff target _ _).mono False.elim
  | ask waits answer induction =>
      refine ⟨?_, fun outcome member ok => ?_⟩
      · have before := induction.pending
        rw [List.forall_mem_append, List.forall_mem_cons] at before ⊢
        refine ⟨fun wait member => (before.1 wait member).mono SeenOff.append, ?_,
          fun wait member => (before.2.2 wait member).mono SeenOff.append⟩
        apply (before.2.1 answer).mono
        rintro (seen | shows)
        · exact seen.append
        · exact ⟨_, _, shows, List.mem_append_right _ (List.mem_singleton_self _)⟩
      · rcases List.mem_append.mp member with member | member
        · exact (induction.settled outcome member ok).append
        · cases List.mem_singleton.mp member
  | pause waits induction =>
      refine ⟨?_, induction.settled⟩
      have before := induction.pending
      rw [List.forall_mem_append, List.forall_mem_cons] at before ⊢
      exact before
  | settle waits induction =>
      have before := induction.pending
      rw [List.forall_mem_append, List.forall_mem_cons] at before
      refine ⟨?_, fun outcome member ok => ?_⟩
      · rw [List.forall_mem_append]
        exact ⟨fun wait member => (before.1 wait member).mono SeenOff.append,
          fun wait member => (before.2.2 wait member).mono SeenOff.append⟩
      · rcases List.mem_append.mp member with member | member
        · exact (induction.settled outcome member ok).append
        · cases List.mem_singleton.mp member
          have regards := waits.regards _ (List.mem_append_right _ List.mem_cons_self) _ rfl
          rw [regards]
          exact (before.2.1 ok).append

end Waits

/-! ## One target after the other -/

section InTurn

variable {State : Type} (world : World State) (step : Transition)

def asks (target : Target) (events : List Conversation.Event) : List Line :=
  events.flatMap fun
    | .asked request answer => [.asked target request answer]
    | .paused _ => []

theorem filterMap_asks {Found : Type} {find : Line → Option Found} {target : Target}
    (unasked : ∀ request answer, find (.asked target request answer) = none)
    (events : List Conversation.Event) : (asks target events).filterMap find = [] := by
  rw [asks, List.filterMap_flatMap, List.flatMap_eq_nil_iff]
  intro event _
  cases event with
  | asked request answer => exact List.filterMap_cons_none (unasked request answer)
  | paused seconds => rfl

theorem sends_each (gateway : Gateway) (starts : List (Target × State)) :
    let call (start : Target × State) := gateway.call (.change step) start.1
    let outcomes := starts.map fun start => ((call start).run world start.2).1
    Sends gateway step (starts.map (·.1))
      (starts.flatMap (fun start => asks start.1 ((call start).trace world start.2).1) ++
        outcomes.map (.returned step))
      (some outcomes) := by
  intro call outcomes
  rcases Dialogue.exists_reaches_each gateway world (.change step) starts with
    ⟨opening, dialogue, entries, rfl, commands, opens, coherent, reaches, returned, going⟩
  have sends := Sends.sent ⟨opens, coherent, reaches, going⟩ returned
  have asked (entry : Job × State) (member : entry ∈ entries) :
      (Dialogue.asksOf gateway world entry).filterMap (Line.ofRemark? (fun _ => some ()) step) =
        asks entry.1.target ((call (entry.1.target, entry.2)).trace world entry.2).1 := by
    rw [Dialogue.asksOf, commands entry member, Dialogue.asks, asks, List.filterMap_flatMap]
    congr 1
    funext event
    cases event <;> simp [Line.ofRemark?]
  have unread (entry : Job × State) :
      (Dialogue.asksOf gateway world entry).flatMap (Remark.reportsAt ()) = [] := by
    rw [Dialogue.asksOf, Dialogue.asks, List.flatMap_assoc, List.flatMap_eq_nil_iff]
    intro event _
    cases event <;> simp [Remark.reportsAt]
  have reported : (entries.map (Dialogue.reportOf gateway world)).map (·.outcome) = outcomes := by
    simp only [outcomes, List.map_map]
    apply List.map_congr_left
    intro entry member
    simp only [Function.comp_apply, Dialogue.reportOf, commands entry member, call]
  have read (reports : List JobReport) :
      (reports.map (Remark.read ())).flatMap (Remark.reportsAt ()) = reports ∧
        (reports.map (Remark.read ())).filterMap (Line.ofRemark? (fun _ => some ()) step) =
          (reports.map (·.outcome)).map (.returned step) := by
    induction reports with
    | nil => exact ⟨rfl, rfl⟩
    | cons report rest induction => simpa [Remark.reportsAt, Line.ofRemark?] using induction
  rw [reaches.received_eq opens, List.flatMap_append, List.flatMap_assoc,
    List.flatMap_eq_nil_iff.mpr fun entry _ => unread entry, (read _).1, List.nil_append,
    List.filterMap_append, List.filterMap_flatMap, List.flatMap_congr asked, (read _).2,
    reported] at sends
  rw [List.flatMap_map]
  exact sends

theorem waits_converse {targets : List Target} {lines : List Line} {target : Target}
    {conversation : Conversation Outcome} {before behind : List Wait} (state : State)
    (waits : Waits gateway targets lines (before ++ ⟨target, conversation⟩ :: behind)) :
    Waits gateway targets (lines ++ (asks target (conversation.trace world state).1 ++
      [.settled (conversation.run world state).1])) (before ++ behind) := by
  induction conversation generalizing lines state with
  | done outcome => exact waits.settle
  | ask request next induction =>
      have asked := waits.ask (world request state).1
      have later := induction _ (world request state).2 asked
      simpa [asks, trace, Conversation.run] using later
  | pause seconds next induction =>
      have later := induction state waits.pause
      simpa [asks, trace, Conversation.run] using later

theorem waits_each (gateway : Gateway) (starts : List (Target × State)) :
    let wait (target : Target) := gateway.awaitOff target gateway.settings.options.offPause
      gateway.settings.options.offRetries
    let lines := starts.flatMap fun start =>
      asks start.1 ((wait start.1).trace world start.2).1 ++
        [.settled ((wait start.1).run world start.2).1]
    Waits gateway (starts.map (·.1)) lines [] ∧
      lines.filterMap Line.settled? =
        starts.map fun start => ((wait start.1).run world start.2).1 := by
  intro wait lines
  constructor
  · have later (rest : List (Target × State)) {before : List Line}
        (waits : Waits gateway (starts.map (·.1)) before
          (rest.map fun start => ⟨start.1, wait start.1⟩)) :
        Waits gateway (starts.map (·.1)) (before ++ rest.flatMap fun start =>
          asks start.1 ((wait start.1).trace world start.2).1 ++
            [.settled ((wait start.1).run world start.2).1]) [] := by
      induction rest generalizing before with
      | nil => simpa using waits
      | cons start rest induction =>
          rw [List.flatMap_cons, ← List.append_assoc]
          exact induction (@waits_converse _ _ world _ _ _ _ [] _ start.2 waits)
    have begins := @Waits.begin gateway (starts.map (·.1))
    rw [List.map_map] at begins
    exact later starts begins
  · rw [List.filterMap_flatMap, List.map_eq_flatMap]
    congr 1
    funext start
    rw [List.filterMap_append, filterMap_asks fun _ _ => rfl]
    rfl

end InTurn

/-! ## Parts of a course -/

namespace Course

variable {Result Next Item : Type} {log : List Line}

theorem cases_append_cons {before after front behind : List Item} {item : Item}
    (split : before ++ item :: after = front ++ behind) :
    (∃ rest, front = before ++ item :: rest ∧ after = rest ++ behind) ∨
      ∃ more, before = front ++ more ∧ behind = more ++ item :: after := by
  rcases List.append_eq_append_iff.mp split with ⟨more, equal, rest⟩ | ⟨more, equal, rest⟩
  · cases more with
    | nil => exact Or.inr ⟨[], by simpa using equal.symm, rest.symm⟩
    | cons first more =>
        rw [List.cons_append, List.cons.injEq] at rest
        rcases rest with ⟨rfl, rfl⟩
        exact Or.inl ⟨more, equal, rfl⟩
  · exact Or.inr ⟨more, equal, rest⟩

theorem Goes.of_bind {course : Course Result} {following : Result → Course Next}
    {ending : Option Next} (goes : (course.bind following).Goes gateway log ending) :
    (course.Goes gateway log none ∧ ending = none) ∨
      ∃ first middle rest, course.Goes gateway first (some middle) ∧
        (following middle).Goes gateway rest ending ∧ log = first ++ rest := by
  induction course generalizing log with
  | done result => exact Or.inr ⟨[], result, log, .done result, goes, rfl⟩
  | change step targets next induction =>
      cases goes with
      | still => exact Or.inl ⟨.still _, rfl⟩
      | changing sends => exact Or.inl ⟨.changing sends, rfl⟩
      | change sends goes =>
          rcases induction _ goes with ⟨before, rfl⟩ | ⟨first, middle, rest, before, after, rfl⟩
          · exact Or.inl ⟨.change sends before, rfl⟩
          · refine Or.inr ⟨_, middle, rest, .change sends before, after, ?_⟩
            rw [List.cons_append, List.append_assoc]
  | awaitOff targets next induction =>
      cases goes with
      | still => exact Or.inl ⟨.still _, rfl⟩
      | awaiting waits => exact Or.inl ⟨.awaiting waits, rfl⟩
      | awaitOff waits goes =>
          rcases induction _ goes with ⟨before, rfl⟩ | ⟨first, middle, rest, before, after, rfl⟩
          · exact Or.inl ⟨.awaitOff waits before, rfl⟩
          · refine Or.inr ⟨_, middle, rest, .awaitOff waits before, after, ?_⟩
            rw [List.append_assoc]

theorem Goes.bind {course : Course Result} {following : Result → Course Next}
    {first rest : List Line} {middle : Result} {ending : Option Next}
    (before : course.Goes gateway first (some middle))
    (after : (following middle).Goes gateway rest ending) :
    (course.bind following).Goes gateway (first ++ rest) ending := by
  induction course generalizing first with
  | done result =>
      cases before
      exact after
  | change step targets next induction =>
      cases before with
      | change sends before =>
          rw [List.cons_append, List.append_assoc]
          exact .change sends (induction _ before)
  | awaitOff targets next induction =>
      cases before with
      | awaitOff waits before =>
          rw [List.append_assoc]
          exact .awaitOff waits (induction _ before)

theorem goes_done {result : Result} {ending : Option Result}
    (goes : (Course.done result).Goes gateway log ending) :
    log = [] ∧ (ending = none ∨ ending = some result) := by
  cases goes with
  | still => exact ⟨rfl, Or.inl rfl⟩
  | done => exact ⟨rfl, Or.inr rfl⟩

variable {body : Item → Result → Course Result} {items : List Item} {start : Result}
  {ending : Option Result}

theorem bind_assoc {Last : Type} (course : Course Result) (following : Result → Course Next)
    (last : Next → Course Last) :
    (course.bind following).bind last = course.bind fun result => (following result).bind last := by
  induction course with
  | done result => rfl
  | change step targets next induction =>
      simp only [Course.bind, induction]
  | awaitOff targets next induction =>
      simp only [Course.bind, induction]

theorem through_append (front behind : List Item) :
    through body (front ++ behind) start =
      (through body front start).bind (through body behind) := by
  induction front generalizing start with
  | nil => rfl
  | cons item front induction =>
      rw [List.cons_append, through, through, bind_assoc]
      congr 1
      funext next
      exact induction

theorem Goes.of_through {before after : List Line} {line : Line}
    (goes : (through body items start).Goes gateway (before ++ line :: after) ending) :
    ∃ front item behind first middle second third rest here,
      items = front ++ item :: behind ∧ before = first ++ second ∧ after = third ++ rest ∧
      (through body front start).Goes gateway first (some middle) ∧
      (body item middle).Goes gateway (second ++ line :: third) here ∧
      (rest = [] ∨ ∃ next, (through body behind next).Goes gateway rest ending) := by
  induction items generalizing start before with
  | nil =>
      have nothing := (goes_done goes).1
      simp at nothing
  | cons item items induction =>
      rcases Goes.of_bind goes with ⟨here, _⟩ | ⟨pass, next, later, here, remaining, split⟩
      · exact ⟨[], item, items, [], start, before, after, [], none, rfl, rfl,
          (List.append_nil after).symm, .done start, here, Or.inl rfl⟩
      · rcases cases_append_cons split with ⟨third, rfl, rfl⟩ | ⟨more, rfl, rfl⟩
        · exact ⟨[], item, items, [], start, before, third, later, some next, rfl, rfl, rfl,
            .done start, here, Or.inr ⟨next, remaining⟩⟩
        · rcases induction remaining with ⟨front, other, behind, first, middle, second, third,
            rest, ending, rfl, rfl, rfl, before, within, later⟩
          exact ⟨item :: front, other, behind, pass ++ first, middle, second, third, rest,
            ending, rfl, (List.append_assoc _ _ _).symm, rfl, .bind here before, within, later⟩

/-! ## Carrying out -/

theorem exists_goes_of_carryOut {pool : Pool} (ready : pool.IsReady) (empty : pool.pending = [])
    {course : Course Result} {result : Result}
    (ends : (course.carryOut gateway pool).MayEnd result) :
    ∃ log, course.Goes gateway log (some result) := by
  induction course with
  | done last =>
      rcases ends with rfl
      exact ⟨[], .done _⟩
  | change step targets next induction =>
      rcases (mayEnd_bind _ _ _).mp ends with ⟨outcomes, ran, ends⟩
      rcases induction outcomes ends with ⟨log, goes⟩
      have inOrder := FanOut.run_ends ready empty ran
      rw [FanOut.callsOf, List.forall₂_map_left_iff] at inOrder
      rcases exists_scripts inOrder with ⟨starts, rfl, rfl⟩
      exact ⟨_, .change (sends_each scripted step gateway starts) goes⟩
  | awaitOff targets next induction =>
      rcases (mayEnd_bind _ _ _).mp ends with ⟨outcomes, waited, ends⟩
      rcases induction outcomes ends with ⟨log, goes⟩
      rcases exists_scripts (awaitAll_ends waited) with ⟨starts, rfl, rfl⟩
      rcases waits_each scripted gateway starts with ⟨waits, settled⟩
      rw [← settled] at goes
      exact ⟨_, .awaitOff waits goes⟩

end Course

end ClusterPower.Campaign
