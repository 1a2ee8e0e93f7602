import ClusterPower.Proofs.FanOut.Answer

/-!
Traffic with the requests that its calls are made of. The calls of the workers go on
request by request, in any order, and whatever the BMCs answer. So a statement about all
dialogues is one about every order in which requests are sent and answered.
-/

namespace ClusterPower

namespace Pool

def calling? (pool : Pool) (index : Nat) : Option Job :=
  match pool.workers[index]? with
  | some (.calling job) => some job
  | _ => none

variable {pool after : Pool} {index other : Nat} {job : Job} {worker : Worker}

theorem calling?_eq_some :
    pool.calling? index = some job ↔ pool.workers[index]? = some (.calling job) := by
  unfold calling?
  split
  · next found => simp [found]
  · next other =>
    constructor
    · intro none
      cases none
    · intro found
      exact absurd found (other job)

theorem calling?_of_set (changed : after.workers = pool.workers.set index worker)
    (calling : after.calling? other = some job) :
    (other = index ∧ worker = .calling job) ∨
      (other ≠ index ∧ pool.calling? other = some job) := by
  rw [calling?_eq_some, changed, List.getElem?_set] at calling
  split at calling
  · next same =>
    split at calling
    · cases calling
      exact Or.inl ⟨same.symm, rfl⟩
    · cases calling
  · next different => exact Or.inr ⟨Ne.symm different, calling?_eq_some.mpr calling⟩

end Pool

namespace FanOut

open Conversation

/-! ## Dialogues -/

structure Dialogue (Place : Type) where
  traffic : Traffic Place
  rest : Nat → Conversation Outcome

/-- What can be noticed of a dialogue. A request is noted when it is sent, with the answer
that it will get. -/
inductive Remark (Place : Type) where
  | asked (job : Job) (request : Http.Request) (answer : Http.Answer)
  | read (place : Place) (report : JobReport)

variable {Place : Type} [DecidableEq Place] (owner : Nat → Option Place) (gateway : Gateway)

namespace Dialogue

inductive Step (dialogue : Dialogue Place) : List (Remark Place) → Dialogue Place → Prop
  | move {after} (move : Move owner gateway dialogue.traffic after)
      (calls : after.pool.calling? = dialogue.traffic.pool.calling?) :
      Step dialogue [] { dialogue with traffic := after }
  | stop (going : dialogue.traffic.pool.stopped = false) :
      Step dialogue []
        { dialogue with
          traffic := { dialogue.traffic with pool := dialogue.traffic.pool.stop } }
  | read {after place report} (read : Read owner dialogue.traffic after)
      (told : (after.callers place).received =
        (dialogue.traffic.callers place).received ++ [report]) :
      Step dialogue [.read place report] { dialogue with traffic := after }
  | call {index job pool} (taken : dialogue.traffic.pool.take? index = some (.called job, pool)) :
      Step dialogue [] {
        traffic := { dialogue.traffic with pool }
        rest := Function.update dialogue.rest index (gateway.call job.command job.target) }
  | ask {index job request next} (calling : dialogue.traffic.pool.calling? index = some job)
      (left : dialogue.rest index = .ask request next) (answer : Http.Answer) :
      Step dialogue [.asked job request answer]
        { dialogue with rest := Function.update dialogue.rest index (next answer) }
  | pause {index job seconds next}
      (calling : dialogue.traffic.pool.calling? index = some job)
      (left : dialogue.rest index = .pause seconds next) :
      Step dialogue [] { dialogue with rest := Function.update dialogue.rest index next }
  | report {index job outcome report pool}
      (calling : dialogue.traffic.pool.calling? index = some job)
      (ended : dialogue.rest index = .done outcome)
      (free : dialogue.traffic.HasRoom owner job)
      (reported : dialogue.traffic.pool.report? index outcome = some (report, pool)) :
      Step dialogue []
        { dialogue with traffic := { dialogue.traffic with pool }.postAll owner [report] }
  | block {index job outcome pool}
      (calling : dialogue.traffic.pool.calling? index = some job)
      (ended : dialogue.rest index = .done outcome)
      (full : ¬dialogue.traffic.HasRoom owner job)
      (blocked : dialogue.traffic.pool.block? index outcome = some pool) :
      Step dialogue [] { dialogue with traffic := { dialogue.traffic with pool } }
  | abort {index reports pool}
      (aborted : dialogue.traffic.pool.abort? index = some (reports, pool)) :
      Step dialogue []
        { dialogue with traffic := { dialogue.traffic with pool }.postAll owner reports }

/-- What is reached by some steps, with all remarks of them in order. -/
inductive Reaches (opening : Dialogue Place) : List (Remark Place) → Dialogue Place → Prop
  | refl : Reaches opening [] opening
  | tail {log dialogue remarks after} (reaches : Reaches opening log dialogue)
      (step : Step owner gateway dialogue remarks after) :
      Reaches opening (log ++ remarks) after

/-- What is left of a call ends as the call may end. -/
def Coherent (dialogue : Dialogue Place) : Prop :=
  ∀ index job, dialogue.traffic.pool.calling? index = some job →
    ∀ outcome, (dialogue.rest index).MayEnd outcome →
      (gateway.call job.command job.target).MayEnd outcome

end Dialogue

/-! ## What is left of calls -/

variable {owner} {gateway} {opening dialogue after : Dialogue Place}
  {remarks log : List (Remark Place)}

namespace Dialogue

/-- What holds of the rest of every call that is under way. -/
def AllCalls (holds : Job → Conversation Outcome → Prop) (dialogue : Dialogue Place) : Prop :=
  ∀ index job, dialogue.traffic.pool.calling? index = some job → holds job (dialogue.rest index)

variable {holds : Job → Conversation Outcome → Prop}

omit [DecidableEq Place] in
theorem AllCalls.setWorker {traffic : Traffic Place} {index : Nat} {worker : Worker}
    (all : dialogue.AllCalls holds)
    (changed : traffic.pool.workers = dialogue.traffic.pool.workers.set index worker)
    (ended : ∀ job, worker ≠ .calling job) :
    ({ dialogue with traffic } : Dialogue Place).AllCalls holds := by
  intro other job calling
  rcases Pool.calling?_of_set changed calling with ⟨_, same⟩ | ⟨_, before⟩
  · exact absurd same (ended job)
  · exact all other job before

omit [DecidableEq Place] in
theorem AllCalls.update {index : Nat} {next : Conversation Outcome}
    (all : dialogue.AllCalls holds)
    (goesOn : ∀ job, holds job (dialogue.rest index) → holds job next) :
    ({ dialogue with rest := Function.update dialogue.rest index next } :
      Dialogue Place).AllCalls holds := by
  intro other job calling
  dsimp only
  by_cases same : other = index
  · rw [same] at calling ⊢
    rw [Function.update_self]
    exact goesOn job (all index job calling)
  · rw [Function.update_of_ne same]
    exact all other job calling

theorem Step.allCalls (step : Step owner gateway dialogue remarks after)
    (begins : ∀ job : Job, holds job (gateway.call job.command job.target))
    (asks : ∀ job request next answer, holds job (.ask request next) → holds job (next answer))
    (pauses : ∀ job seconds next, holds job (.pause seconds next) → holds job next)
    (all : dialogue.AllCalls holds) : after.AllCalls holds := by
  cases step with
  | move move calls =>
      intro index job calling
      exact all index job (by rwa [← calls])
  | stop going => exact all
  | read read told =>
      cases read with
      | receive => exact all
  | @call index job pool taken =>
      rcases Pool.take?_called taken with ⟨_, _, _, _, _, _, rfl⟩
      intro other called calling
      dsimp only
      rcases (Pool.calling?_of_set rfl calling :
          _ ∨ _ ∧ dialogue.traffic.pool.calling? other = some called) with
        ⟨rfl, same⟩ | ⟨different, before⟩
      · cases same
        rw [Function.update_self]
        exact begins _
      · rw [Function.update_of_ne different]
        exact all other called before
  | ask calling left answer =>
      exact all.update fun job held => asks job _ _ answer (left ▸ held)
  | pause calling left =>
      exact all.update fun job held => pauses job _ _ (left ▸ held)
  | report calling ended free reported =>
      rcases Pool.report?_some (Pool.calling?_eq_some.mp calling) reported with ⟨_, rfl⟩
      exact all.setWorker (by rw [Traffic.postAll_pool]) fun _ => Worker.noConfusion
  | block calling ended full blocked =>
      rcases Pool.block?_some (Pool.calling?_eq_some.mp calling) blocked with rfl
      exact all.setWorker rfl fun _ => Worker.noConfusion
  | abort aborted =>
      rcases Pool.abort?_some aborted with ⟨_, _, _, _, _, rfl⟩
      exact all.setWorker (by rw [Traffic.postAll_pool]) fun _ => Worker.noConfusion

theorem Step.coherent (step : Step owner gateway dialogue remarks after)
    (coherent : dialogue.Coherent gateway) : after.Coherent gateway := by
  let mayEnd (job : Job) (rest : Conversation Outcome) : Prop :=
    ∀ outcome, rest.MayEnd outcome → (gateway.call job.command job.target).MayEnd outcome
  have all : dialogue.AllCalls mayEnd := coherent
  have kept : after.AllCalls mayEnd :=
    step.allCalls (fun _ _ ending => ending)
      (fun _ _ _ answer ends outcome ending => ends outcome ⟨answer, ending⟩)
      (fun _ _ _ ends => ends) all
  exact kept

/-! ## Dialogues as traffic -/

theorem Step.traffic (step : Step owner gateway dialogue remarks after)
    (coherent : dialogue.Coherent gateway) :
    after.traffic = dialogue.traffic ∨
      FanOut.Step owner gateway dialogue.traffic after.traffic := by
  have ends {index : Nat} {job : Job} {outcome : Outcome}
      (calling : dialogue.traffic.pool.calling? index = some job)
      (ended : dialogue.rest index = .done outcome) :
      (gateway.call job.command job.target).MayEnd outcome :=
    coherent index job calling outcome (by rw [ended]; rfl)
  cases step with
  | move move calls => exact Or.inr (.move move)
  | stop going => exact Or.inr (.stop going)
  | read read told => exact Or.inr (.read read)
  | call taken => exact Or.inr (.move (.turn (.call taken)))
  | ask | pause => exact Or.inl rfl
  | report calling ended free reported =>
      exact Or.inr (.move (.turn (.report (Pool.calling?_eq_some.mp calling)
        (ends calling ended) free reported)))
  | block calling ended full blocked =>
      exact Or.inr (.move (.turn (.block (Pool.calling?_eq_some.mp calling)
        (ends calling ended) full blocked)))
  | abort aborted => exact Or.inr (.move (.turn (.abort aborted)))

theorem Reaches.coherent (reaches : Reaches owner gateway opening log dialogue)
    (coherent : opening.Coherent gateway) : dialogue.Coherent gateway := by
  induction reaches with
  | refl => exact coherent
  | tail _ step induction => exact step.coherent induction

theorem Reaches.traffic (reaches : Reaches owner gateway opening log dialogue)
    (coherent : opening.Coherent gateway) :
    FanOut.Reaches owner gateway opening.traffic dialogue.traffic := by
  induction reaches with
  | refl => exact .refl
  | tail before step induction =>
      rcases step.traffic (before.coherent coherent) with same | step
      · rwa [same]
      · exact induction.tail step

theorem Reaches.trans {later : Dialogue Place} {more : List (Remark Place)}
    (reaches : Reaches owner gateway opening log dialogue)
    (goesOn : Reaches owner gateway dialogue more later) :
    Reaches owner gateway opening (log ++ more) later := by
  induction goesOn with
  | refl => rwa [List.append_nil]
  | tail _ step induction =>
      rw [← List.append_assoc]
      exact induction.tail step

theorem Reaches.going (reaches : Reaches owner gateway opening log dialogue)
    (coherent : opening.Coherent gateway) (going : dialogue.traffic.pool.stopped = false) :
    opening.traffic.pool.stopped = false := by
  induction reaches with
  | refl => exact going
  | tail before step induction =>
      apply induction
      rcases step.traffic (before.coherent coherent) with same | step
      · rwa [← same]
      · exact step.going going

/-! ## What is asked -/

theorem Step.asked {job : Job} {request : Http.Request} {answer : Http.Answer}
    (step : Step owner gateway dialogue remarks after)
    (noted : .asked job request answer ∈ remarks) :
    job.ticket ∈ dialogue.traffic.pool.tickets := by
  cases step with
  | move | stop | call | pause | report | block | abort => cases noted
  | read => cases List.mem_singleton.mp noted
  | ask calling =>
      cases List.mem_singleton.mp noted
      exact Pool.ticket_mem_of_worker (Pool.calling?_eq_some.mp calling)
        (Multiset.mem_singleton_self _)

end Dialogue

omit [DecidableEq Place] in
theorem Request.Makes.mem_calls {request : Request} {jobs : List Job} {job : Job}
    (makes : request.Makes jobs) (ticket : job.ticket ∈ jobs.map Job.ticket) :
    (job.target, job.command) ∈ request.calls := by
  rcases List.mem_map.mp ticket with ⟨made, listed, same⟩
  simp only [Job.ticket, Ticket.mk.injEq] at same
  rw [← makes.calls, ← same.2.1, ← same.2.2]
  exact List.mem_map_of_mem (f := fun job : Job => (job.target, job.command)) listed

theorem Dialogue.Reaches.ticket_of_asked {requests : Place → Request} {place : Place} {job : Job}
    {request : Http.Request} {answer : Http.Answer}
    (reaches : Dialogue.Reaches owner gateway opening log dialogue)
    (opens : Opens owner requests opening.traffic) (coherent : opening.Coherent gateway)
    (noted : .asked job request answer ∈ log) (owned : owner job.number = some place) :
    job.ticket ∈ (opening.traffic.callers place).ahead.map Job.ticket := by
  induction reaches with
  | refl => cases noted
  | tail before step induction =>
      rcases List.mem_append.mp noted with noted | noted
      · exact induction noted
      · have inPool := step.asked noted
        have inLedger : job.ticket ∈ Traffic.ledger owner _ place :=
          Multiset.mem_add.mpr (Or.inr (Multiset.mem_filter.mpr ⟨inPool, owned⟩))
        rw [(before.traffic coherent).ledger_eq_jobs opens] at inLedger
        exact Multiset.mem_coe.mp inLedger

theorem Dialogue.Reaches.asked {requests : Place → Request} {place : Place} {job : Job}
    {request : Http.Request} {answer : Http.Answer}
    (reaches : Dialogue.Reaches owner gateway opening log dialogue)
    (opens : Opens owner requests opening.traffic) (coherent : opening.Coherent gateway)
    (noted : .asked job request answer ∈ log) (owned : owner job.number = some place) :
    (job.target, job.command) ∈ (requests place).calls := by
  have ticket := reaches.ticket_of_asked opens coherent noted owned
  rcases opens.opened place with ⟨jobs, makes, _, caller⟩
  rw [caller] at ticket
  exact makes.mem_calls ticket

/-! ## What is read -/

def Remark.reportsAt (place : Place) : Remark Place → List JobReport
  | asked _ _ _ => []
  | read reader report => if reader = place then [report] else []

theorem Move.received_eq {traffic after : Traffic Place}
    (move : Move owner gateway traffic after) (place : Place) :
    (after.callers place).received = (traffic.callers place).received := by
  have set {actor : Place} {caller : Caller} {pool : Pool}
      (kept : caller.received = (traffic.callers actor).received) :
      ((({ traffic with pool } : Traffic Place).setCaller actor caller).callers place).received =
        (traffic.callers place).received := by
    rw [Traffic.setCaller_callers]
    split
    · next same => rw [same, kept]
    · rfl
  have told {pool : Pool} {job : Job} {change : Caller → Caller}
      (kept : ∀ caller, (change caller).received = caller.received) :
      ((({ traffic with pool } : Traffic Place).tell owner job change).callers place).received =
        (traffic.callers place).received := by
    rw [Traffic.tell_callers]
    split
    · exact kept _
    · rfl
  cases move with
  | refuse | bounce => exact set (Caller.post_received _ _)
  | prepare | accept | await => exact set rfl
  | enter => exact told fun _ => rfl
  | dismiss => exact told fun caller => Caller.post_received _ _
  | turn =>
      rw [Traffic.postAll_callers]
      exact Caller.foldl_post_keeps _ Caller.received Caller.post_received _

theorem Read.received_eq {traffic after : Traffic Place} {place : Place} {report : JobReport}
    (read : Read owner traffic after)
    (told : (after.callers place).received = (traffic.callers place).received ++ [report])
    (other : Place) :
    (after.callers other).received =
      (traffic.callers other).received ++ (Remark.read place report).reportsAt other := by
  simp only [Remark.reportsAt]
  by_cases same : place = other
  · rwa [if_pos same, ← same]
  · rw [if_neg same]
    cases read with
    | @receive actor =>
        by_cases reader : place = actor
        · have other : other ≠ actor := fun equal => same (reader.trans equal.symm)
          simp [Traffic.setCaller_callers, other]
        · rw [Traffic.setCaller_callers, if_neg reader] at told
          simp at told

namespace Dialogue

theorem Step.received_eq (step : Step owner gateway dialogue remarks after) (place : Place) :
    (after.traffic.callers place).received =
      (dialogue.traffic.callers place).received ++ remarks.flatMap (Remark.reportsAt place) := by
  cases step with
  | move move => simp [move.received_eq]
  | read read told => simpa using read.received_eq told place
  | report | abort =>
      simp only [Traffic.postAll_callers]
      rw [Caller.foldl_post_keeps _ Caller.received Caller.post_received]
      simp
  | stop | call | pause | block => simp
  | ask => simp [Remark.reportsAt]

theorem Reaches.received_eq {requests : Place → Request}
    (reaches : Reaches owner gateway opening log dialogue)
    (opens : Opens owner requests opening.traffic) (place : Place) :
    (dialogue.traffic.callers place).received = log.flatMap (Remark.reportsAt place) := by
  induction reaches with
  | refl =>
      rcases opens.opened place with ⟨jobs, _, _, caller⟩
      rw [caller]
      rfl
  | tail before step induction =>
      rw [step.received_eq, induction, List.flatMap_append]

/-! ## One call from its beginning to its end -/

def asks (job : Job) (events : List Event) : List (Remark Place) :=
  events.flatMap fun
    | .asked request answer => [.asked job request answer]
    | .paused _ => []

theorem Reaches.converse {index : Nat} {job : Job} {conversation : Conversation Outcome}
    {State : Type} (world : World State) (state : State)
    (reaches : Reaches owner gateway opening log dialogue)
    (calling : dialogue.traffic.pool.calling? index = some job)
    (left : dialogue.rest index = conversation) :
    ∃ rest, rest index = .done (conversation.run world state).1 ∧
      Reaches owner gateway opening (log ++ asks job (conversation.trace world state).1)
        { dialogue with rest } := by
  induction conversation generalizing dialogue log state with
  | done outcome => exact ⟨dialogue.rest, left, by simpa [asks, trace] using reaches⟩
  | ask request next induction =>
      have asked := reaches.tail (.ask calling left (world request state).1)
      rcases induction _ (world request state).2 asked calling (Function.update_self _ _ _) with
        ⟨rest, ended, later⟩
      exact ⟨rest, ended, by simpa [asks, trace] using later⟩
  | pause seconds next induction =>
      have paused := reaches.tail (.pause calling left)
      rcases induction state paused calling (Function.update_self _ _ _) with
        ⟨rest, ended, later⟩
      exact ⟨rest, ended, by simpa [asks, trace] using later⟩

/-! ## All calls of a caller, one after the other -/

section Alone

variable {opening : Dialogue Unit} {log : List (Remark Unit)} {room count : Nat}
  {held received : List JobReport} {left : Nat → Conversation Outcome} {State : Type}
  (gateway : Gateway) (world : World State)

/-- A job in the hands of a worker, with the state of the world in which its call begins. -/
def begun (entry : Job × State) : Job × State :=
  ({ entry.1 with state := ⟨.inProgress, none⟩ }, entry.2)

def asksOf (entry : Job × State) : List (Remark Unit) :=
  asks entry.1 ((gateway.call entry.1.command entry.1.target).trace world entry.2).1

def reportOf (entry : Job × State) : JobReport :=
  ⟨entry.1, ((gateway.call entry.1.command entry.1.target).run world entry.2).1⟩

def between (room count : Nat) (ahead : List Job) (held received : List JobReport) :
    Traffic Unit where
  pool := (Pool.create 1 1).start
  callers _ := { ahead, count, room, held, received }

theorem not_awaits_between {ahead : List Job} :
    ¬(between room count ahead held received).Awaits (fun _ => some ()) () := by
  rintro ⟨job, member, _⟩
  cases member

theorem Reaches.carry {entry : Job × State} {ahead : List Job} (fresh : entry.1.state = {})
    (roomy : held.length < room)
    (reaches : Reaches (fun _ => some ()) gateway opening log
      ⟨between room count (entry.1 :: ahead) held [], left⟩) :
    ∃ left, Reaches (fun _ => some ()) gateway opening
      (log ++ asksOf gateway world (begun entry))
      ⟨between room (count + 1) ahead (held ++ [reportOf gateway world (begun entry)]) [],
        left⟩ := by
  rcases entry with ⟨⟨number, command, target, _⟩, state⟩
  cases fresh
  let conversation := gateway.call command target
  let queued : Job := ⟨number, command, target, ⟨.queued, none⟩⟩
  let taken : Job := ⟨number, command, target, ⟨.inProgress, none⟩⟩
  have handed : Reaches (fun _ => some ()) gateway opening log
      ⟨⟨(Pool.create 1 1).start,
        fun _ => { ahead, hand := some queued, count, room, held }⟩, left⟩ := by
    have step := reaches.tail (.move (@Move.prepare Unit _ _ _ _ () _ _ rfl rfl
      not_awaits_between rfl) rfl)
    rwa [List.append_nil] at step
  let caller : Caller := { ahead, count := count + 1, room, held }
  have accepted : Reaches (fun _ => some ()) gateway opening log
      ⟨⟨{ (Pool.create 1 1).start with queue := [queued] }, fun _ => caller⟩, left⟩ := by
    have step := handed.tail (.move (@Move.accept Unit _ _ _ _ () queued _ rfl rfl) rfl)
    rwa [List.append_nil] at step
  let busy : Pool := { (Pool.create 1 1).start with workers := [.calling taken], running := 1 }
  let begins := Function.update left 0 conversation
  have called : Reaches (fun _ => some ()) gateway opening log
      ⟨⟨busy, fun _ => caller⟩, begins⟩ := by
    have step := accepted.tail (@Step.call Unit _ _ gateway _ 0 taken _ rfl)
    rwa [List.append_nil] at step
  have calling : busy.calling? 0 = some taken := rfl
  have whole : begins 0 = conversation := Function.update_self _ _ _
  rcases called.converse world state calling whole with ⟨rest, ended, conversed⟩
  refine ⟨rest, ?_⟩
  have step := conversed.tail (@Step.report Unit _ _ _ _ 0 _ _ _ _ calling ended
    (fun _ _ => roomy) rfl)
  rw [List.append_nil] at step
  have posted (report : JobReport) :
      caller.post report = { caller with held := held ++ [report] } := if_pos roomy
  simp only [Traffic.postAll, Traffic.post, Traffic.tell, Traffic.setCaller, List.foldl_cons,
    List.foldl_nil, posted] at step
  exact step

theorem Reaches.carryAll {entries : List (Job × State)}
    (fresh : ∀ entry ∈ entries, entry.1.state = {}) (roomy : held.length + entries.length ≤ room)
    (reaches : Reaches (fun _ => some ()) gateway opening log
      ⟨between room count (entries.map (·.1)) held [], left⟩) :
    ∃ left, Reaches (fun _ => some ()) gateway opening
      (log ++ (entries.map begun).flatMap (asksOf gateway world))
      ⟨between room (count + entries.length) []
        (held ++ (entries.map begun).map (reportOf gateway world)) [], left⟩ := by
  induction entries generalizing log count held left with
  | nil => exact ⟨left, by simpa using reaches⟩
  | cons entry rest induction =>
      rw [List.length_cons] at roomy
      rcases reaches.carry gateway world (fresh entry List.mem_cons_self) (by omega) with
        ⟨middle, once⟩
      rcases induction (fun entry member => fresh entry (List.mem_cons_of_mem _ member))
        (by rw [List.length_append, List.length_singleton]; omega) once with ⟨last, later⟩
      refine ⟨last, ?_⟩
      simpa [List.append_assoc, Nat.add_assoc, Nat.add_comm 1] using later

theorem Reaches.readAll (counted : received.length + held.length = count)
    (reaches : Reaches (fun _ => some ()) gateway opening log
      ⟨between room count [] held received, left⟩) :
    Reaches (fun _ => some ()) gateway opening (log ++ held.map (.read ()))
      ⟨between room count [] [] (received ++ held), left⟩ := by
  induction held generalizing log received with
  | nil => simpa using reaches
  | cons report rest induction =>
      rw [List.length_cons] at counted
      have wanted : received.length < count := by omega
      have read : Reaches (fun _ => some ()) gateway opening (log ++ [.read () report])
          ⟨between room count [] rest (received ++ [report]), left⟩ :=
        reaches.tail (@Step.read Unit _ _ _ _ _ () report
          (@Read.receive Unit _ _ _ () report rest ⟨rfl, rfl, not_awaits_between⟩ wanted rfl) rfl)
      have later := induction (by rw [List.length_append, List.length_singleton]; omega) read
      simpa [List.append_assoc] using later

theorem exists_reaches_each (command : Command) (starts : List (Target × State)) :
    ∃ (opening dialogue : Dialogue Unit) (entries : List (Job × State)),
      starts = entries.map (fun entry => (entry.1.target, entry.2)) ∧
      (∀ entry ∈ entries, entry.1.command = command) ∧
      Opens (fun _ => some ()) (fun _ => .same command (starts.map (·.1))) opening.traffic ∧
      opening.Coherent gateway ∧
      Reaches (fun _ => some ()) gateway opening
        (entries.flatMap (asksOf gateway world) ++
          (entries.map (reportOf gateway world)).map (.read ())) dialogue ∧
      dialogue.traffic.HasReturned (fun _ => some ()) () ∧
      dialogue.traffic.pool.stopped = false := by
  let request : Request := .same command (starts.map (·.1))
  let entries : List (Job × State) :=
    starts.mapIdx fun number start => (⟨number, command, start.1, {}⟩, start.2)
  have jobs : numbered request.calls = entries.map (·.1) := by
    apply List.ext_getElem
    · simp [numbered, request, Request.calls, callsOf, entries]
    · intro index _ _
      simp [numbered, request, Request.calls, callsOf, entries]
  have opens := opens_alone (Pool.sound_start (Pool.sound_create 1 1)) rfl request
  have opening : Reaches (fun _ => some ()) gateway
      ⟨Traffic.alone (Pool.create 1 1).start request, fun _ => .done default⟩ []
      ⟨between (max starts.length 1) 0 (entries.map (·.1)) [] [], fun _ => .done default⟩ := by
    have same : Traffic.alone (Pool.create 1 1).start request =
        between (max starts.length 1) 0 (entries.map (·.1)) [] [] := by
      rw [Traffic.alone, jobs]
      simp [Caller.opened, request, Request.targets, between]
    rw [same]
    exact .refl
  have fresh : ∀ entry ∈ entries, entry.1.state = {} := by
    intro entry member
    rcases List.mem_mapIdx.mp member with ⟨_, _, rfl⟩
    rfl
  rcases opening.carryAll gateway world fresh (by simp [entries]) with ⟨left, carried⟩
  rw [List.nil_append, List.nil_append] at carried
  have read := carried.readAll gateway (by simp)
  refine ⟨_, _, entries.map begun, ?_, ?_, opens, ?_, read,
    ⟨⟨rfl, rfl, not_awaits_between⟩, by simp [between]⟩, rfl⟩
  · apply List.ext_getElem
    · simp [entries]
    · intro index _ _
      simp [entries, begun]
  · intro entry member
    rcases List.mem_map.mp member with ⟨queued, listed, rfl⟩
    rcases List.mem_mapIdx.mp listed with ⟨_, _, rfl⟩
    rfl
  · intro index job calling
    have idle : (Pool.create 1 1).start.calling? index = none := by cases index <;> rfl
    rw [Traffic.alone, idle] at calling
    cases calling

end Alone

end Dialogue

end FanOut

end ClusterPower
