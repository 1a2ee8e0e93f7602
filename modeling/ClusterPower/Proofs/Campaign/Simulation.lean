import ClusterPower.Proofs.Bmc.Simulation
import ClusterPower.Proofs.Campaign.Stops

/-!
Nothing is sent in a simulation, whatever is asked for: single commands, requests that are fanned
out over a pool, waits for Off and whole campaigns, also where pools are stopped.
-/

namespace ClusterPower

open Conversation FanOut

variable {gateway : Gateway}

/-! ## Simulated requests over a pool -/

namespace Pool

variable {call : Job → Conversation Outcome}

theorem silent_serveWithin (silent : ∀ job, (call job).Silent) (settled : Settled)
    (count : Nat) : (serveWithin call settled count).Silent := by
  induction count generalizing settled with
  | zero => trivial
  | succ count induction =>
      unfold serveWithin
      dsimp only
      split
      · trivial
      · exact induction _
      · refine silent_bind (silent _) fun outcome => ?_
        split
        · exact induction _
        · trivial

theorem silent_settle (silent : ∀ job, (call job).Silent) (pool : Pool) :
    (pool.settle call).Silent := by
  unfold settle
  split
  · trivial
  · exact silent_serveWithin silent _ _

end Pool

namespace FanOut

variable {Place : Type} [DecidableEq Place] {owner : Nat → Option Place}
  {opening dialogue : Dialogue Place} {log : List (Remark Place)}

theorem silent_run (simulates : gateway.simulation = true) (pool : Pool)
    (calls : List (Target × Command)) : (run gateway pool calls).Silent := by
  refine silent_bind (silent_bind ?_ fun _ => trivial) fun _ => trivial
  exact Pool.silent_settle (fun job => gateway.silent_call simulates _ _) _

def Remark.request? (owner : Nat → Option Place) (place : Place) :
    Remark Place → Option Http.Request
  | asked job request _ => if owner job.number = some place then some request else none
  | read _ _ => none

/-- The calls of callers are silent. Those of others may say what they like. -/
def Hushed (owner : Nat → Option Place) (job : Job) (rest : Conversation Outcome) : Prop :=
  (owner job.number).isSome → rest.Silent

omit [DecidableEq Place] in
theorem Opens.hushed {requests : Place → Request}
    (opens : Opens owner requests opening.traffic) : opening.AllCalls (Hushed owner) := by
  intro index job calling owned
  have inPool := Pool.ticket_mem_of_worker (Pool.calling?_eq_some.mp calling)
    (Multiset.mem_singleton_self job.ticket)
  have foreign := opens.others job.ticket inPool
  rw [Job.ticket_number] at foreign
  rw [foreign] at owned
  cases owned

theorem Dialogue.Reaches.asks_nothing (place : Place) (simulates : gateway.simulation = true)
    (reaches : Dialogue.Reaches owner gateway opening log dialogue)
    (hushed : opening.AllCalls (Hushed owner)) :
    dialogue.AllCalls (Hushed owner) ∧ log.filterMap (Remark.request? owner place) = [] := by
  induction reaches with
  | refl => exact ⟨hushed, rfl⟩
  | tail before step induction =>
      rcases induction with ⟨hushed, nothing⟩
      refine ⟨step.allCalls (fun job _ => gateway.silent_call simulates _ _)
        (fun job request next answer silent owned => (silent owned).elim)
        (fun job seconds next silent owned => silent owned) hushed, ?_⟩
      rw [List.filterMap_append, nothing, List.nil_append]
      cases step with
      | move | stop | call | pause | report | block | abort => rfl
      | read => rfl
      | @ask index job request next calling left answer =>
          have foreign : owner job.number ≠ some place := by
            intro owned
            have silent := hushed index job calling (by rw [owned]; rfl)
            rw [left] at silent
            exact silent
          simp [Remark.request?, foreign]

end FanOut

/-! ## Simulated campaigns -/

namespace Campaign

def Line.request? : Line → Option Http.Request
  | asked _ request _ => some request
  | _ => none

theorem Waits.asks_nothing (simulates : gateway.simulation = true) {targets : List Target}
    {lines : List Line} {waiting : List Wait} (waits : Waits gateway targets lines waiting) :
    lines.filterMap Line.request? = [] := by
  have silent {lines : List Line} {waiting : List Wait}
      (waits : Waits gateway targets lines waiting) : ∀ wait ∈ waiting, wait.rest.Silent :=
    waits.all (·.rest.Silent) (fun target _ => gateway.silent_awaitOff simulates target _ _)
      (fun _ _ _ _ silent => silent.elim) fun _ _ _ silent => silent
  induction waits with
  | begin => rfl
  | ask waits answer induction =>
      exact (silent waits _ (List.mem_append_right _ List.mem_cons_self)).elim
  | pause waits induction => exact induction
  | settle waits induction =>
      rw [List.filterMap_append, induction]
      rfl

theorem request?_ofRemark? {owner : Nat → Option Unit} {step : Transition}
    (log : List (Remark Unit)) :
    (log.filterMap (Line.ofRemark? owner step)).filterMap Line.request? =
      log.filterMap (Remark.request? owner ()) := by
  rw [List.filterMap_filterMap]
  congr 1
  funext remark
  cases remark with
  | asked job request answer =>
      simp only [Line.ofRemark?, Remark.request?]
      split <;> rfl
  | read place report => rfl

theorem Course.Unfolds.asks_nothing (simulates : gateway.simulation = true) {Result : Type}
    {course : Course Result} {stopped : Bool} {log : List Line} {ending : Option Result}
    (unfolds : course.Unfolds gateway stopped log ending) :
    log.filterMap Line.request? = [] := by
  induction unfolds with
  | still | done => rfl
  | stop unfolds induction => exact induction
  | changing serving =>
      rw [List.filterMap_cons_none rfl, request?_ofRemark?]
      exact (serving.reaches.asks_nothing () simulates serving.opens.hushed).2
  | change serving returned goesOn unfolds beside induction =>
      have sent := serving.reaches.asks_nothing () simulates serving.opens.hushed
      have late := goesOn.asks_nothing () simulates sent.1
      rw [← request?_ofRemark?] at sent late
      rw [List.filterMap_cons_none rfl, List.filterMap_append, sent.2,
        beside.filterMap_right late.2, induction]
      rfl
  | awaiting waits => exact waits.asks_nothing simulates
  | awaitOff waits unfolds induction =>
      rw [List.filterMap_append, waits.asks_nothing simulates, induction]
      rfl

theorem silent_awaitAll (simulates : gateway.simulation = true) (targets : List Target) :
    (awaitAll gateway targets).Silent := by
  induction targets with
  | nil => trivial
  | cons target rest induction =>
      exact silent_bind (gateway.silent_awaitOff simulates _ _ _) fun _ =>
        silent_bind induction fun _ => trivial

theorem silent_run (simulates : gateway.simulation = true) (pool : Pool)
    (inventory : Option Inventory) (transition : Transition) (targets : List Target) :
    (run gateway pool inventory transition targets).Silent := by
  unfold run
  induction course gateway.settings gateway.simulation inventory transition targets with
  | done result => trivial
  | change step targets next induction =>
      exact silent_bind (FanOut.silent_run simulates _ _) induction
  | awaitOff targets next induction =>
      exact silent_bind (silent_awaitAll simulates _) induction

end Campaign

/-! ## All that can be asked for -/

/-- One thing that a gateway is used for. -/
inductive Deed where
  | call (command : Command) (target : Target)
  | fanOut (request : FanOut.Request)
  | awaitOff (target : Target) (pause retries : Nat)
  | campaign (inventory : Option Inventory) (transition : Transition) (targets : List Target)

namespace Deed

/-- The requests that may be sent up to some moment, whatever is answered and in whatever order
the calls end. A pool may serve others beside, and may be stopped at any moment. -/
inductive Sends (gateway : Gateway) : Deed → List Http.Request → Prop
  | call {command target events ending}
      (goes : (gateway.call command target).Goes events ending) :
      Sends gateway (.call command target) (requestsOf events)
  | fanOut {request owner log} {opening dialogue : Dialogue Unit}
      (opens : Opens owner (fun _ => request) opening.traffic)
      (coherent : opening.Coherent gateway)
      (reaches : Dialogue.Reaches owner gateway opening log dialogue) :
      Sends gateway (.fanOut request) (log.filterMap (Remark.request? owner ()))
  | awaitOff {target pause retries events ending}
      (goes : (gateway.awaitOff target pause retries).Goes events ending) :
      Sends gateway (.awaitOff target pause retries) (requestsOf events)
  | campaign {inventory transition targets stopped log ending}
      (unfolds : (Campaign.course gateway.settings gateway.simulation inventory transition
        targets).Unfolds gateway stopped log ending) :
      Sends gateway (.campaign inventory transition targets)
        (log.filterMap Campaign.Line.request?)

/-- The requests that may be sent for one deed after the other. -/
def SendAll (gateway : Gateway) (deeds : List Deed) (requests : List Http.Request) : Prop :=
  ∃ parts, List.Forall₂ (Sends gateway) deeds parts ∧ requests = parts.flatten

theorem Sends.eq_nil (simulates : gateway.simulation = true) {deed : Deed}
    {requests : List Http.Request} (sends : deed.Sends gateway requests) : requests = [] := by
  cases sends with
  | call goes => exact requestsOf_of_silent (gateway.silent_call simulates _ _) goes
  | fanOut opens coherent reaches => exact (reaches.asks_nothing () simulates opens.hushed).2
  | awaitOff goes => exact requestsOf_of_silent (gateway.silent_awaitOff simulates _ _ _) goes
  | campaign unfolds => exact unfolds.asks_nothing simulates

end Deed

/-- In a simulation nothing is ever sent, in whatever order the jobs of a pool are carried out,
nor in the order in which a run carries them out. A simulated call ends at once, with code -1 or
0. If the code is -1, the call itself comes to the same outcome without a request. If it is 0,
the state says that nothing was sent, and the call itself sends a request, whatever is
answered. -/
theorem simulation_sends_nothing (gateway : Gateway) :
    (∀ deeds requests, Deed.SendAll gateway.simulated deeds requests → requests = []) ∧
    (∀ pool, (∀ calls, (FanOut.run gateway.simulated pool calls).Silent) ∧
      ∀ inventory transition targets,
        (Campaign.run gateway.simulated pool inventory transition targets).Silent) ∧
    ∀ command target, ∃ outcome,
      gateway.simulated.call command target = .done outcome ∧
      (outcome.code = -1 ∨ outcome.code = 0) ∧
      ∀ (State : Type) (world : World State) (state : State),
        let told := (gateway.real.call command target).trace world state
        (outcome.code = -1 → told.1 = [] ∧ told.2.1 = outcome) ∧
        (outcome.code = 0 →
          outcome.state = "Simulation only - request not sent to hardware" ∧
            requestsOf told.1 ≠ []) := by
  refine ⟨?_, fun pool => ⟨fun calls => FanOut.silent_run rfl pool calls,
    fun inventory transition targets => Campaign.silent_run rfl pool inventory transition targets⟩,
    ?_⟩
  · rintro deeds requests ⟨parts, sends, rfl⟩
    induction sends with
    | nil => rfl
    | cons sends _ induction =>
        rw [List.flatten_cons, sends.eq_nil rfl, induction]
        rfl
  · intro command target
    have mimics := gateway.mimics_call command target
    generalize gateway.simulated.call command target = mimic at mimics
    generalize gateway.real.call command target = genuine at mimics
    cases mimics with
    | @failed outcome code =>
        refine ⟨outcome, rfl, Or.inl code, fun State world state => ⟨fun _ => ⟨rfl, rfl⟩, ?_⟩⟩
        rw [code]
        intro impossible
        cases impossible
    | kept asks =>
        refine ⟨_, rfl, Or.inr rfl, fun State world state => ⟨nofun, fun _ => ⟨rfl, ?_⟩⟩⟩
        exact asks.requestsOf_ne_nil (goes_trace world genuine state)

end ClusterPower
