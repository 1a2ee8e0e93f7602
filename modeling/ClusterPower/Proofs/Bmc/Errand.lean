import ClusterPower.Bmc.Gateway
import ClusterPower.Proofs.Bmc.ClientLock

/-!
What is done with the client, guards included: calls to BMCs, waits for a target to be off, and
rotations of the client itself. A call asks for its guard once and gives it back at its end;
whatever it looks up on the way is done under that guard. Without the guards these are the
conversations of the gateway (`forget_call`, `forget_awaitOff`).
-/

namespace ClusterPower

open Http

theorem Conversation.bind_done {Result : Type} (conversation : Conversation Result) :
    conversation.bind .done = conversation := by
  induction conversation with
  | done result => rfl
  | ask request next induction => exact congrArg _ (funext induction)
  | pause seconds next induction => exact congrArg _ induction

/-- A conversation whose requests go through the client, with what is done to get at it. -/
inductive Errand (Client Result : Type) where
  | done (result : Result)
  | ask (request : Request) (next : Answer → Errand Client Result)
  | pause (seconds : Nat) (next : Errand Client Result)
  | apply (guard : Guard) (next : Errand Client Result)
  | wait (guard : Guard) (next : Errand Client Result)
  | giveBack (guard : Guard) (next : Errand Client Result)
  | put (client : Client) (next : Errand Client Result)

namespace Errand

variable {Client Result Next : Type}

def bind (errand : Errand Client Result) (following : Result → Errand Client Next) :
    Errand Client Next :=
  match errand with
  | .done result => following result
  | .ask request next => .ask request fun answer => (next answer).bind following
  | .pause seconds next => .pause seconds (next.bind following)
  | .apply guard next => .apply guard (next.bind following)
  | .wait guard next => .wait guard (next.bind following)
  | .giveBack guard next => .giveBack guard (next.bind following)
  | .put client next => .put client (next.bind following)

def take (guard : Guard) (next : Errand Client Result) : Errand Client Result :=
  .apply guard (.wait guard next)

def ofConversation : Conversation Result → Errand Client Result
  | .done result => .done result
  | .ask request next => .ask request fun answer => ofConversation (next answer)
  | .pause seconds next => .pause seconds (ofConversation next)

def forget : Errand Client Result → Conversation Result
  | .done result => .done result
  | .ask request next => .ask request fun answer => (next answer).forget
  | .pause seconds next => .pause seconds next.forget
  | .apply _ next | .wait _ next | .giveBack _ next | .put _ next => next.forget

@[simp] theorem forget_bind (errand : Errand Client Result)
    (following : Result → Errand Client Next) :
    (errand.bind following).forget =
      errand.forget.bind fun result => (following result).forget := by
  induction errand with
  | done result => rfl
  | ask request next induction => exact congrArg _ (funext induction)
  | pause seconds next induction => exact congrArg _ induction
  | apply guard next induction => exact induction
  | wait guard next induction => exact induction
  | giveBack guard next induction => exact induction
  | put client next induction => exact induction

@[simp] theorem forget_ofConversation (conversation : Conversation Result) :
    (ofConversation conversation : Errand Client Result).forget = conversation := by
  induction conversation with
  | done result => rfl
  | ask request next induction => exact congrArg _ (funext induction)
  | pause seconds next induction => exact congrArg _ induction

def isDone : Errand Client Result → Bool
  | .done _ => true
  | .ask _ _ | .pause _ _ | .apply _ _ | .wait _ _ | .giveBack _ _ | .put _ _ => false

/-- What may be left of an errand behind its first step. -/
inductive Behind : Errand Client Result → Errand Client Result → Prop
  | ask {request next} (answer : Answer) : Behind (next answer) (.ask request next)
  | pause {seconds next} : Behind next (.pause seconds next)
  | apply {guard next} : Behind next (.apply guard next)
  | wait {guard next} : Behind next (.wait guard next)
  | giveBack {guard next} : Behind next (.giveBack guard next)
  | put {client next} : Behind next (.put client next)

theorem wellFounded_behind : WellFounded (@Behind Client Result) := by
  refine ⟨fun errand => ?_⟩
  induction errand with
  | done result => exact ⟨_, nofun⟩
  | ask request next induction =>
      refine ⟨_, fun rest behind => ?_⟩
      cases behind with
      | ask answer => exact induction answer
  | pause seconds next induction | apply guard next induction | wait guard next induction
  | giveBack guard next induction | put client next induction =>
      refine ⟨_, fun rest behind => ?_⟩
      cases behind
      exact induction

/-! ## Calls -/

def change (gateway : Gateway) (transition : Transition) (target : Target) :
    Errand Client Outcome :=
  match gateway.settings.resetToken transition target.resetTokens with
  | .error error =>
    .done (.failed target (target.bmcKind ++ " " ++ target.host ++ ": " ++ error.message))
  | .ok token =>
    match Gateway.changeBody? target token with
    | none =>
      .done (.failed target ("Could not get outlet number for " ++ target.hostname))
    | some body =>
      if gateway.simulation then .done (.simulated target)
      else if token = pushPowerButton then
        (ofConversation (gateway.readState target)).bind fun probe =>
          if probe.isOk && probe.state == transition.name then
            .done (.found target probe.state)
          else ofConversation (gateway.sendChange target body)
      else ofConversation (gateway.sendChange target body)

def writeTagged (gateway : Gateway) (target : Target) (body : Bytes) : Errand Client Outcome :=
  if gateway.simulation then .done (.simulated target)
  else if Text.occursIn Gateway.untaggedMark (Gateway.powerPath target) then
    ofConversation (gateway.patchCaps target body none)
  else
    (ofConversation (gateway.readCaps target)).bind fun current =>
      if current.isOk then
        match Gateway.powerResource? current.message with
        | some power => ofConversation (gateway.patchCaps target body power.etag)
        | none =>
          .done (.failed target "SetPowerCap unable to unmarshal status request")
      else .done current

def carryOut (gateway : Gateway) (target : Target) : Command → Errand Client Outcome
  | .readState => ofConversation (gateway.readState target)
  | .change transition => change gateway transition target
  | .readCaps => ofConversation (gateway.readCaps target)
  | .writeCaps body =>
    match target.traits.capStyle with
    | .posted => ofConversation (gateway.postCaps target body)
    | .indexed | .members => writeTagged gateway target body

/-- A call has its guard from before its first request until its outcome is there. -/
def call (gateway : Gateway) (command : Command) (target : Target) : Errand Client Outcome :=
  if target.host.isEmpty then .done (Gateway.withoutHost target)
  else
    take .shared ((carryOut gateway target command).bind fun outcome =>
      .giveBack .shared (.done outcome))

def awaitOff (gateway : Gateway) (target : Target) (pause : Nat) :
    (retries : Nat) → Errand Client Outcome
  | 0 =>
    (call gateway .readState target).bind fun poll =>
      .done (if Gateway.confirmsOff poll then .found target Outcome.stateOff
        else Gateway.neverOff target)
  | retries + 1 =>
    (call gateway .readState target).bind fun poll =>
      if Gateway.confirmsOff poll then .done (.found target Outcome.stateOff)
      else .pause pause (awaitOff gateway target pause retries)

variable (gateway : Gateway) (target : Target)

theorem forget_change (transition : Transition) :
    (change gateway transition target : Errand Client Outcome).forget =
      gateway.change transition target := by
  unfold change Gateway.change
  cases gateway.settings.resetToken transition target.resetTokens with
  | error error => rfl
  | ok token =>
      dsimp only
      cases Gateway.changeBody? target token with
      | none => rfl
      | some body =>
          dsimp only
          split_ifs
          · rfl
          · rw [forget_bind, forget_ofConversation]
            congr 1
            funext probe
            split
            · rfl
            · exact forget_ofConversation _
          · exact forget_ofConversation _

theorem forget_writeTagged (body : Bytes) :
    (writeTagged gateway target body : Errand Client Outcome).forget =
      gateway.writeTagged target body := by
  unfold writeTagged Gateway.writeTagged
  split_ifs
  · rfl
  · exact forget_ofConversation _
  · rw [forget_bind, forget_ofConversation]
    congr 1
    funext current
    split
    · cases Gateway.powerResource? current.message with
      | none => rfl
      | some power => exact forget_ofConversation _
    · rfl

theorem forget_call (command : Command) :
    (call gateway command target : Errand Client Outcome).forget = gateway.call command target := by
  have carriedOut : (take .shared ((carryOut gateway target command).bind fun outcome =>
      .giveBack .shared (.done outcome)) : Errand Client Outcome).forget =
        (carryOut gateway target command : Errand Client Outcome).forget :=
    (forget_bind _ _).trans (Conversation.bind_done _)
  unfold call Gateway.call
  split
  · rfl
  · rw [carriedOut]
    cases command with
    | readState => exact forget_ofConversation _
    | change transition => exact forget_change gateway target transition
    | readCaps => exact forget_ofConversation _
    | writeCaps body =>
        dsimp only [carryOut, Gateway.writeCaps]
        cases target.traits.capStyle with
        | posted => exact forget_ofConversation _
        | indexed | members => exact forget_writeTagged gateway target body

theorem forget_awaitOff (pause retries : Nat) :
    (awaitOff gateway target pause retries : Errand Client Outcome).forget =
      gateway.awaitOff target pause retries := by
  induction retries with
  | zero =>
      rw [awaitOff, forget_bind, forget_call]
      rfl
  | succ retries induction =>
      rw [awaitOff, forget_bind, forget_call, Gateway.awaitOff]
      congr 1
      funext poll
      split
      · rfl
      · exact congrArg _ induction

/-! ## Rotations -/

/-- A rotation puts the client in place that it has built, if it has been able to. -/
def rotate (build : Option Bytes → Option Client) (bundle : Option Bytes) :
    Errand Client Bool :=
  take .alone (match build bundle with
    | some client => .put client (.giveBack .alone (.done true))
    | none => .giveBack .alone (.done false))

/-! ## One guard at a time -/

/-- Nothing but requests and pauses. -/
def Plain : Errand Client Result → Prop
  | .done _ => True
  | .ask _ next => ∀ answer, (next answer).Plain
  | .pause _ next => next.Plain
  | .apply _ _ | .wait _ _ | .giveBack _ _ | .put _ _ => False

/-- From here on a guard is asked for only outside, requests are made only with a shared guard,
the client is changed only alone, to one of the fresh ones, and every guard is given back. -/
def Orderly (fresh : Client → Prop) : Standing → Errand Client Result → Prop
  | standing, .done _ => standing = .outside
  | standing, .ask _ next =>
    standing = .inside .shared ∧ ∀ answer, (next answer).Orderly fresh standing
  | standing, .pause _ next => (∀ guard, standing ≠ .waiting guard) ∧ next.Orderly fresh standing
  | standing, .apply guard next => standing = .outside ∧ next.Orderly fresh (.waiting guard)
  | standing, .wait guard next => standing = .waiting guard ∧ next.Orderly fresh (.inside guard)
  | standing, .giveBack guard next => standing = .inside guard ∧ next.Orderly fresh .outside
  | standing, .put client next =>
    standing = .inside .alone ∧ fresh client ∧ next.Orderly fresh standing

/-- The client is put in place before the errand ends. -/
def Puts (client : Client) : Errand Client Result → Prop
  | .done _ => False
  | .ask _ next => ∀ answer, (next answer).Puts client
  | .pause _ next | .apply _ next | .wait _ next | .giveBack _ next => next.Puts client
  | .put other next => other = client ∨ next.Puts client

variable {fresh : Client → Prop} {standing : Standing}

theorem Orderly.outside_of_isDone {errand : Errand Client Result}
    (orderly : errand.Orderly fresh standing) (finished : errand.isDone = true) :
    standing = .outside := by
  cases errand with
  | done result => exact orderly
  | ask | pause | apply | wait | giveBack | put => cases finished

theorem not_puts_of_isDone {client : Client} {errand : Errand Client Result}
    (finished : errand.isDone = true) : ¬errand.Puts client := by
  cases errand with
  | done result => exact not_false
  | ask | pause | apply | wait | giveBack | put => cases finished

theorem plain_ofConversation (conversation : Conversation Result) :
    (ofConversation conversation : Errand Client Result).Plain := by
  induction conversation with
  | done result => trivial
  | ask request next induction => exact induction
  | pause seconds next induction => exact induction

theorem plain_bind {errand : Errand Client Result} {following : Result → Errand Client Next}
    (first : errand.Plain) (second : ∀ result, (following result).Plain) :
    (errand.bind following).Plain := by
  induction errand with
  | done result => exact second result
  | ask request next induction => exact fun answer => induction answer (first answer)
  | pause seconds next induction => exact induction first
  | apply | wait | giveBack | put => cases first

theorem orderly_bind {errand : Errand Client Result} {following : Result → Errand Client Next}
    (first : errand.Orderly fresh standing)
    (second : ∀ result, (following result).Orderly fresh .outside) :
    (errand.bind following).Orderly fresh standing := by
  induction errand generalizing standing with
  | done result =>
      rw [show standing = .outside from first]
      exact second result
  | ask request next induction =>
      exact ⟨first.1, fun answer => induction answer (first.2 answer)⟩
  | pause seconds next induction => exact ⟨first.1, induction first.2⟩
  | apply guard next induction => exact ⟨first.1, induction first.2⟩
  | wait guard next induction => exact ⟨first.1, induction first.2⟩
  | giveBack guard next induction => exact ⟨first.1, induction first.2⟩
  | put client next induction => exact ⟨first.1, first.2.1, induction first.2.2⟩

theorem Plain.orderly_bind {errand : Errand Client Result}
    {following : Result → Errand Client Next} (plain : errand.Plain)
    (behind : ∀ result, (following result).Orderly fresh (.inside .shared)) :
    (errand.bind following).Orderly fresh (.inside .shared) := by
  induction errand with
  | done result => exact behind result
  | ask request next induction => exact ⟨rfl, fun answer => induction answer (plain answer)⟩
  | pause seconds next induction => exact ⟨nofun, induction plain⟩
  | apply | wait | giveBack | put => cases plain

theorem plain_change (transition : Transition) :
    (change gateway transition target : Errand Client Outcome).Plain := by
  unfold change
  split
  · trivial
  · split
    · trivial
    · split_ifs
      · trivial
      · apply plain_bind (plain_ofConversation _)
        intro probe
        split
        · trivial
        · exact plain_ofConversation _
      · exact plain_ofConversation _

theorem plain_writeTagged (body : Bytes) :
    (writeTagged gateway target body : Errand Client Outcome).Plain := by
  unfold writeTagged
  split_ifs
  · trivial
  · exact plain_ofConversation _
  · apply plain_bind (plain_ofConversation _)
    intro current
    split
    · split
      · exact plain_ofConversation _
      · trivial
    · trivial

theorem plain_carryOut (command : Command) :
    (carryOut gateway target command : Errand Client Outcome).Plain := by
  cases command with
  | readState | readCaps => exact plain_ofConversation _
  | change transition => exact plain_change gateway target transition
  | writeCaps body =>
      dsimp only [carryOut]
      cases target.traits.capStyle with
      | posted => exact plain_ofConversation _
      | indexed | members => exact plain_writeTagged gateway target body

theorem orderly_call (command : Command) :
    (call gateway command target : Errand Client Outcome).Orderly fresh .outside := by
  unfold call
  split
  · rfl
  · refine ⟨rfl, rfl, ?_⟩
    exact (plain_carryOut gateway target command).orderly_bind fun outcome => ⟨rfl, rfl⟩

theorem orderly_awaitOff (pause retries : Nat) :
    (awaitOff gateway target pause retries : Errand Client Outcome).Orderly fresh .outside := by
  induction retries with
  | zero => exact orderly_bind (orderly_call gateway target .readState) fun poll => rfl
  | succ retries induction =>
      apply orderly_bind (orderly_call gateway target .readState)
      intro poll
      split
      · rfl
      · exact ⟨nofun, induction⟩

theorem orderly_rotate (build : Option Bytes → Option Client) (bundle : Option Bytes) :
    (rotate build bundle).Orderly (fun client => build bundle = some client) .outside := by
  refine ⟨rfl, rfl, ?_⟩
  split
  · next client built => exact ⟨rfl, built, rfl, rfl⟩
  · exact ⟨rfl, rfl⟩

theorem puts_rotate {build : Option Bytes → Option Client} {bundle : Option Bytes}
    {client : Client} (built : build bundle = some client) :
    (rotate build bundle).Puts client := by
  unfold rotate
  rw [built]
  exact Or.inl rfl

theorem puts_bind {client : Client} {errand : Errand Client Result}
    {following : Result → Errand Client Next} (puts : errand.Puts client) :
    (errand.bind following).Puts client := by
  induction errand with
  | done result => cases puts
  | ask request next induction => exact fun answer => induction answer (puts answer)
  | pause seconds next induction => exact induction puts
  | apply guard next induction => exact induction puts
  | wait guard next induction => exact induction puts
  | giveBack guard next induction => exact induction puts
  | put other next induction => exact puts.imp_right induction

end Errand

/-! ## Tasks -/

/-- What may be asked of those who share the client. -/
inductive Duty where
  | call (command : Command) (target : Target)
  | awaitOff (target : Target) (pause retries : Nat)
  | rotate (bundle : Option Bytes)

namespace Duty

/-- What comes of a duty. -/
inductive Ending where
  | outcome (outcome : Outcome)
  | rotated (successful : Bool)

variable {Client : Type}

def errand (gateway : Gateway) (build : Option Bytes → Option Client) :
    Duty → Errand Client Ending
  | call command target =>
    (Errand.call gateway command target).bind fun outcome => .done (.outcome outcome)
  | awaitOff target pause retries =>
    (Errand.awaitOff gateway target pause retries).bind fun outcome => .done (.outcome outcome)
  | rotate bundle =>
    (Errand.rotate build bundle).bind fun successful => .done (.rotated successful)

def conversation (gateway : Gateway) (build : Option Bytes → Option Client) :
    Duty → Conversation Ending
  | call command target =>
    (gateway.call command target).bind fun outcome => .done (.outcome outcome)
  | awaitOff target pause retries =>
    (gateway.awaitOff target pause retries).bind fun outcome => .done (.outcome outcome)
  | rotate bundle => .done (.rotated (build bundle).isSome)

/-- The duty is a rotation that is able to build the client. -/
def Builds (build : Option Bytes → Option Client) (duty : Duty) (client : Client) : Prop :=
  ∃ bundle, duty = rotate bundle ∧ build bundle = some client

variable (gateway : Gateway) (build : Option Bytes → Option Client)

theorem forget_errand (duty : Duty) :
    (duty.errand gateway build).forget = duty.conversation gateway build := by
  cases duty with
  | call command target =>
      rw [errand, Errand.forget_bind, Errand.forget_call]
      rfl
  | awaitOff target pause retries =>
      rw [errand, Errand.forget_bind, Errand.forget_awaitOff]
      rfl
  | rotate bundle =>
      rw [errand, Errand.rotate, conversation]
      cases build bundle with
      | none => rfl
      | some client => rfl

theorem orderly_errand (duty : Duty) :
    (duty.errand gateway build).Orderly (duty.Builds build) .outside := by
  cases duty with
  | call command target =>
      exact Errand.orderly_bind (Errand.orderly_call gateway target command) fun outcome => rfl
  | awaitOff target pause retries =>
      exact Errand.orderly_bind (Errand.orderly_awaitOff gateway target pause retries)
        fun outcome => rfl
  | rotate bundle =>
      have same : (rotate bundle).Builds build = fun client => build bundle = some client := by
        funext client
        simp [Builds]
      rw [same]
      exact Errand.orderly_bind (Errand.orderly_rotate build bundle) fun successful => rfl

theorem Builds.puts {duty : Duty} {client : Client} (builds : duty.Builds build client) :
    (duty.errand gateway build).Puts client := by
  rcases builds with ⟨bundle, rfl, built⟩
  exact Errand.puts_bind (Errand.puts_rotate built)

end Duty

end ClusterPower
