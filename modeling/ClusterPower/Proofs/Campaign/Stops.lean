import ClusterPower.Proofs.Campaign.Interleaves
import ClusterPower.Proofs.Campaign.Lines
import ClusterPower.Proofs.FanOut.Spent

/-!
Campaigns of which the pool may be stopped. A stop keeps later rounds from sending anything.
The round that it interrupts may return before its calls have ended, so that they go on
beside whatever comes next. Up to the round of a request, though, the log is that of a
campaign that nobody has stopped.
-/

namespace ClusterPower.Campaign

open Conversation FanOut

/-! ## Sending through a pool that may be stopped -/

variable (gateway : Gateway)

/-- A step is being sent to targets by a pool that was stopped before or was not, and may be
stopped at any moment. -/
structure Serving (step : Transition) (targets : List Target) (owner : Nat → Option Unit)
    (stopped : Bool) (opening : Dialogue Unit) (log : List (Remark Unit))
    (dialogue : Dialogue Unit) : Prop where
  opens : Opens owner (fun _ => .same (.change step) targets) opening.traffic
  coherent : opening.Coherent gateway
  found : opening.traffic.pool.stopped = stopped
  reaches : Dialogue.Reaches owner gateway opening log dialogue

/-- The lines of a course whose pool may be stopped, or is from the beginning. Calls that are
still under way when their round returns go on beside the rest. -/
inductive Course.Unfolds {Result : Type} :
    Bool → Course Result → List Line → Option Result → Prop
  | still (stopped : Bool) (course : Course Result) : Unfolds stopped course [] none
  | done (stopped : Bool) (result : Result) : Unfolds stopped (.done result) [] (some result)
  | stop {course log ending} (unfolds : Unfolds true course log ending) :
      Unfolds false course log ending
  | changing {stopped step targets next owner opening log dialogue}
      (serving : Serving gateway step targets owner stopped opening log dialogue) :
      Unfolds stopped (.change step targets next)
        (.began step targets :: log.filterMap (Line.ofRemark? owner step)) none
  | change {stopped step targets next owner opening log dialogue more later rest whole ending}
      (serving : Serving gateway step targets owner stopped opening log dialogue)
      (returned : dialogue.traffic.HasReturned owner ())
      (goesOn : Dialogue.Reaches owner gateway dialogue more later)
      (unfolds : Unfolds dialogue.traffic.pool.stopped
        (next ((dialogue.traffic.callers ()).received.map (·.outcome))) rest ending)
      (beside : Interleaves (more.filterMap (Line.ofRemark? owner step)) rest whole) :
      Unfolds stopped (.change step targets next)
        (.began step targets :: (log.filterMap (Line.ofRemark? owner step) ++ whole)) ending
  | awaiting {stopped targets next lines waiting}
      (waits : Waits gateway targets lines waiting) :
      Unfolds stopped (.awaitOff targets next) lines none
  | awaitOff {stopped targets next lines log ending}
      (waits : Waits gateway targets lines [])
      (unfolds : Unfolds stopped (next (lines.filterMap Line.settled?)) log ending) :
      Unfolds stopped (.awaitOff targets next) (lines ++ log) ending

variable {gateway}

/-! ## What is written while a step is sent -/

theorem ofRemark?_eq_none {owner : Nat → Option Unit} {step : Transition}
    {remark : Remark Unit} (foreign : ¬remark.Concerns owner ()) :
    Line.ofRemark? owner step remark = none := by
  cases remark with
  | asked job request answer => exact if_neg foreign
  | read reader report => exact absurd rfl foreign

section Serving

variable {step : Transition} {targets : List Target} {owner : Nat → Option Unit}
  {stopped : Bool} {opening dialogue later : Dialogue Unit} {log more : List (Remark Unit)}

namespace Serving

variable (serving : Serving gateway step targets owner stopped opening log dialogue)

include serving

theorem traffic : FanOut.Reaches owner gateway opening.traffic dialogue.traffic :=
  serving.reaches.traffic serving.coherent

theorem goOn (goesOn : Dialogue.Reaches owner gateway dialogue more later) :
    Serving gateway step targets owner stopped opening (log ++ more) later :=
  { serving with reaches := serving.reaches.trans goesOn }

theorem mem_of_asked {target : Target} {request : Http.Request} {answer : Http.Answer}
    (written : .asked target request answer ∈ log.filterMap (Line.ofRemark? owner step)) :
    target ∈ targets := by
  rcases List.mem_filterMap.mp written with ⟨remark, noted, written⟩
  cases remark with
  | asked job request answer =>
      simp only [Line.ofRemark?, Option.ite_none_right_eq_some, Option.some.injEq,
        Line.asked.injEq] at written
      have called := serving.reaches.asked serving.opens serving.coherent noted written.1
      simp only [FanOut.Request.calls, callsOf, List.mem_map, Prod.mk.injEq] at called
      rcases called with ⟨other, listed, same, _⟩
      rwa [← written.2.1, ← same]
  | read place report => cases written

theorem stays (closed : stopped = true) : dialogue.traffic.pool.stopped = true := by
  cases now : dialogue.traffic.pool.stopped with
  | true => rfl
  | false =>
      rw [← serving.found, serving.reaches.going serving.coherent now] at closed
      cases closed

theorem mem_of_received {target : Target}
    (told : target ∈ ((dialogue.traffic.callers ()).received.map (·.outcome)).map (·.target)) :
    target ∈ targets := by
  rcases List.mem_map.mp told with ⟨_, heard, rfl⟩
  rcases List.mem_map.mp heard with ⟨report, received, rfl⟩
  rcases serving.opens.opened () with ⟨jobs, makes, _, caller⟩
  have part := serving.traffic.reports_le_jobs serving.opens ()
  have reported : report.ticket ∈
      ((dialogue.traffic.callers ()).reports.map JobReport.ticket : Multiset Ticket) :=
    Multiset.mem_coe.mpr (List.mem_map_of_mem (List.mem_append_left _ received))
  have made := Multiset.mem_coe.mp (Multiset.mem_of_le part reported)
  rw [caller] at made
  rcases List.mem_map.mp made with ⟨job, listed, same⟩
  have called : (job.target, job.command) ∈ callsOf (.change step) targets := by
    have all := makes.calls
    simp only [FanOut.Request.calls] at all
    rw [← all]
    exact List.mem_map_of_mem listed
  rcases List.mem_map.mp called with ⟨target, inTargets, pair⟩
  rw [Prod.mk.injEq] at pair
  have own : report.outcome.target = job.target := by
    simp only [Job.ticket, JobReport.ticket, Ticket.mk.injEq] at same
    exact same.2.2.symm
  rwa [own, ← pair.1]

theorem idle (closed : stopped = true) :
    log.filterMap (Line.ofRemark? owner step) = [] ∧
      (dialogue.traffic.callers ()).received = [] := by
  have spent := serving.opens.spent (serving.found.trans closed) ()
  have unconcerned := (serving.reaches.unconcerned serving.opens.orderly serving.coherent
    spent).2
  constructor
  · rw [List.filterMap_eq_nil_iff]
    exact fun remark noted => ofRemark?_eq_none (unconcerned remark noted)
  · rw [serving.reaches.received_eq serving.opens, List.flatMap_eq_nil_iff]
    intro remark noted
    cases remark with
    | asked job request answer => rfl
    | read reader report => exact absurd rfl (unconcerned _ noted)

theorem nothing_beside (returned : dialogue.traffic.HasReturned owner ())
    (going : dialogue.traffic.pool.stopped = false)
    (goesOn : Dialogue.Reaches owner gateway dialogue more later) :
    more.filterMap (Line.ofRemark? owner step) = [] := by
  have spent := Reaches.spent serving.traffic serving.opens returned going
  have unconcerned := (goesOn.unconcerned (serving.opens.orderly.reaches serving.traffic)
    (serving.reaches.coherent serving.coherent) spent).2
  rw [List.filterMap_eq_nil_iff]
  exact fun remark noted => ofRemark?_eq_none (unconcerned remark noted)

end Serving

end Serving

/-! ## Campaigns that nobody stops -/

theorem Course.Goes.unfolds {Result : Type} {course : Course Result} {log : List Line}
    {ending : Option Result} (goes : course.Goes gateway log ending) :
    course.Unfolds gateway false log ending := by
  have found {step : Transition} {targets : List Target} {owner : Nat → Option Unit}
      {opening dialogue : Dialogue Unit} {log : List (Remark Unit)}
      (sending : Sending gateway step targets owner opening log dialogue) :
      Serving gateway step targets owner false opening log dialogue :=
    ⟨sending.opens, sending.coherent,
      sending.reaches.going sending.coherent sending.going, sending.reaches⟩
  induction goes with
  | still course => exact .still _ course
  | done result => exact .done _ result
  | changing sends =>
      cases sends with
      | sending sending => exact .changing (found sending)
  | change sends goes induction =>
      cases sends with
      | sent sending returned =>
          refine .change (found sending) returned .refl ?_ (Interleaves.nil_left _)
          rwa [sending.going]
  | awaiting waits => exact .awaiting waits
  | awaitOff waits goes induction => exact .awaitOff waits induction

/-! ## Who is waited for -/

namespace Course

variable {Result Next Item : Type}

/-- Only targets of which the last step has brought an outcome are waited for. -/
def Attends (known : List Target) : Course Result → Prop
  | .done _ => True
  | .change _ _ next => ∀ outcomes, Attends (outcomes.map (·.target)) (next outcomes)
  | .awaitOff targets next =>
    (∀ target ∈ targets, target ∈ known) ∧ ∀ outcomes, Attends known (next outcomes)

theorem attends_bind {course : Course Result} {following : Result → Course Next}
    {known : List Target} (first : course.Attends known)
    (second : ∀ result known, (following result).Attends known) :
    (course.bind following).Attends known := by
  induction course generalizing known with
  | done result => exact second result known
  | change step targets next induction =>
      exact fun outcomes => induction outcomes (first outcomes)
  | awaitOff targets next induction =>
      exact ⟨first.1, fun outcomes => induction outcomes (first.2 outcomes)⟩

theorem attends_through {body : Item → Result → Course Result}
    (each : ∀ item result known, (body item result).Attends known) (items : List Item)
    (result : Result) (known : List Target) : (through body items result).Attends known := by
  induction items generalizing result known with
  | nil => trivial
  | cons item items induction => exact attends_bind (each item result known) induction

end Course

theorem attends_round (simulation : Bool) (step : Transition) (targets : List Target)
    (progress : Progress) (known : List Target) :
    (round simulation step targets progress).Attends known := by
  intro outcomes
  dsimp only
  split
  · split
    · trivial
    · exact ⟨fun _ listed => (List.filter_sublist.map _).subset listed, fun _ => trivial⟩
  · trivial

theorem attends_course (settings : Settings) (simulation : Bool) (inventory : Option Inventory)
    (transition : Transition) (targets known : List Target) :
    (course settings simulation inventory transition targets).Attends known := by
  unfold course ofRoster
  dsimp only
  split
  · trivial
  · apply Course.attends_bind
    · apply Course.attends_through
      intro stage progress known
      exact Course.attends_through
        (fun names progress known => attends_round simulation stage.step _ progress known) _ _ _
    · exact fun _ _ => trivial

/-! ## Before a request -/

theorem Waits.mem_of_asked {targets : List Target} {lines : List Line} {waiting : List Wait}
    {target : Target} {request : Http.Request} {answer : Http.Answer}
    (waits : Waits gateway targets lines waiting) (asked : .asked target request answer ∈ lines) :
    target ∈ targets := by
  rcases waits.cases_line asked with ⟨_, listed, _, _, same⟩ | ⟨_, same⟩
  · cases same
    exact listed
  · cases same

namespace Course

variable {Result : Type} {course : Course Result} {target : Target}

/-- A round with the target had begun when all this was written, and nobody had stopped the
campaign until it began. -/
def BeganWith (gateway : Gateway) (course : Course Result) (target : Target)
    (before : List Line) : Prop :=
  ∃ done step batch within, before = done ++ .began step batch :: within ∧ target ∈ batch ∧
    course.Goes gateway (done ++ [.began step batch]) none

namespace BeganWith

variable {step : Transition} {targets : List Target} {next : List Outcome → Course Result}
  {lines before : List Line}

theorem first {owner : Nat → Option Unit} {opening dialogue : Dialogue Unit}
    {log : List (Remark Unit)}
    (serving : Serving gateway step targets owner false opening log dialogue)
    (member : target ∈ targets) (within : List Line) :
    (Course.change step targets next).BeganWith gateway target (.began step targets :: within) :=
  ⟨[], step, targets, within, rfl, member,
    .changing (.sending ⟨serving.opens, serving.coherent, .refl, serving.found⟩)⟩

theorem change {outcomes : List Outcome} (sends : Sends gateway step targets lines (some outcomes))
    (later : (next outcomes).BeganWith gateway target before) :
    (Course.change step targets next).BeganWith gateway target
      (.began step targets :: (lines ++ before)) := by
  rcases later with ⟨done, begun, batch, within, rfl, inBatch, goes⟩
  refine ⟨.began step targets :: (lines ++ done), begun, batch, within, by simp, inBatch, ?_⟩
  rw [List.cons_append, List.append_assoc]
  exact .change sends goes

theorem awaitOff (waits : Waits gateway targets lines [])
    (later : (next (lines.filterMap Line.settled?)).BeganWith gateway target before) :
    (Course.awaitOff targets next).BeganWith gateway target (lines ++ before) := by
  rcases later with ⟨done, begun, batch, within, rfl, inBatch, goes⟩
  refine ⟨lines ++ done, begun, batch, within, by simp, inBatch, ?_⟩
  rw [List.append_assoc]
  exact .awaitOff waits goes

end BeganWith

namespace Unfolds

variable {log : List Line} {ending : Option Result} {known : List Target}
  {request : Http.Request} {answer : Http.Answer}

theorem attended_of_stopped (unfolds : course.Unfolds gateway true log ending)
    (attends : course.Attends known) (asked : .asked target request answer ∈ log) :
    target ∈ known := by
  generalize closed : true = stopped at unfolds
  induction unfolds generalizing known with
  | still | done => cases asked
  | stop => cases closed
  | changing serving =>
      rw [(serving.idle closed.symm).1] at asked
      simp at asked
  | change serving returned goesOn unfolds beside induction =>
      have quiet := ((serving.goOn goesOn).idle closed.symm).1
      rw [List.filterMap_append, List.append_eq_nil_iff] at quiet
      rw [quiet.2] at beside
      rw [quiet.1, beside.eq_of_nil] at asked
      have attended := induction (attends _) (by simpa using asked)
        (serving.stays closed.symm).symm
      rw [(serving.idle closed.symm).2] at attended
      cases attended
  | awaiting waits => exact attends.1 target (waits.mem_of_asked asked)
  | awaitOff waits unfolds induction =>
      rcases List.mem_append.mp asked with asked | asked
      · exact attends.1 target (waits.mem_of_asked asked)
      · exact induction (attends.2 _) asked closed

theorem began_before_asked (unfolds : course.Unfolds gateway false log ending)
    (attends : course.Attends known) {before behind : List Line}
    (split : log = before ++ .asked target request answer :: behind) :
    target ∈ known ∨ course.BeganWith gateway target before := by
  have asked : .asked target request answer ∈ log := split ▸ List.mem_append_cons_self
  generalize going : false = stopped at unfolds
  induction unfolds generalizing known before with
  | still | done => cases asked
  | stop unfolds => exact Or.inl (unfolds.attended_of_stopped attends asked)
  | changing serving =>
      subst going
      rcases List.cons_eq_append_iff.mp split with ⟨_, equal⟩ | ⟨within, rfl, written⟩
      · cases equal
      · have member := serving.mem_of_asked (written ▸ List.mem_append_cons_self)
        exact Or.inr (.first serving member within)
  | @change _ step targets next owner opening log dialogue more later rest whole ending
      serving returned goesOn unfolds beside induction =>
      subst going
      rcases List.cons_eq_append_iff.mp split with ⟨_, equal⟩ | ⟨within, rfl, written⟩
      · cases equal
      by_cases member : target ∈ targets
      · exact Or.inr (.first serving member within)
      -- The request is of a later round, which this one has not left to a stopped pool.
      have unattended := mt serving.mem_of_received member
      rcases cases_append_cons written.symm with ⟨_, here, _⟩ | ⟨between, rfl, later⟩
      · exact absurd (serving.mem_of_asked (here ▸ List.mem_append_cons_self)) member
      have asked := later ▸ List.mem_append_cons_self
      cases stopped : dialogue.traffic.pool.stopped with
      | true =>
          rw [stopped] at unfolds
          rcases beside.cases_mem asked with late | next
          · exact absurd ((serving.goOn goesOn).mem_of_asked
              (by rw [List.filterMap_append]; exact List.mem_append_right _ late)) member
          · exact absurd (unfolds.attended_of_stopped (attends _) next) unattended
      | false =>
          rw [serving.nothing_beside returned stopped goesOn] at beside
          have sends := Sends.sent
            ⟨serving.opens, serving.coherent, serving.reaches, stopped⟩ returned
          rw [beside.eq_of_nil] at later asked
          exact Or.inr (.change sends
            ((induction (attends _) later asked stopped.symm).resolve_left unattended))
  | awaiting waits => exact Or.inl (attends.1 target (waits.mem_of_asked asked))
  | awaitOff waits unfolds induction =>
      rcases cases_append_cons split.symm with ⟨_, here, _⟩ | ⟨between, rfl, later⟩
      · exact Or.inl (attends.1 target (waits.mem_of_asked (here ▸ List.mem_append_cons_self)))
      · exact (induction (attends.2 _) later (later ▸ List.mem_append_cons_self) going).imp_right
          (.awaitOff waits)

end Unfolds

end Course

end ClusterPower.Campaign
