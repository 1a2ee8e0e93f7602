import ClusterPower.Bmc.Refusal
import ClusterPower.Command
import ClusterPower.Conversation
import ClusterPower.Outcome
import ClusterPower.Path
import ClusterPower.Redfish.Power
import ClusterPower.Redfish.Request
import ClusterPower.Settings.Basic
import ClusterPower.Target.Description
import ClusterPower.Text.Integer

/-!
The gateway to the BMCs. `Gateway.call` is the conversation that carries out one
command for one target. It always ends with exactly one outcome: requests that
get no answer, refusals and undecodable replies are outcomes too, so that one bad
BMC never disturbs another.
-/

namespace ClusterPower

open Http

structure Gateway where
  settings : Settings
  simulation : Bool
  scheme : String := "https"
deriving Inhabited

namespace Gateway

def description (gateway : Gateway) : String :=
  describeRecord "RedfishAdapter" [
    ("scheme", Text.quoted gateway.scheme),
    ("simulation_only", describeBoolean gateway.simulation)] false

/-! ## Single requests -/

def address (gateway : Gateway) (target : Target) (path : String) : String :=
  gateway.scheme ++ "://" ++ target.host ++ path

def request (gateway : Gateway) (target : Target) (method : Method) (path : String) :
    Request where
  method
  address := gateway.address target path
  user := target.user
  password := target.password

def jsonRequest (gateway : Gateway) (target : Target) (method : Method) (path : String)
    (body : Bytes) : Request :=
  { gateway.request target method path with sendsJson := true, body }

def noAnswer (target : Target) : Outcome :=
  .failed target (target.bmcKind ++ " Communication Error")

def brokenAnswer (target : Target) : Outcome :=
  .failed target "Internal Server Error"

def refused (target : Target) (reply : Reply) : Outcome :=
  { Outcome.failed target (Bmc.refusalMessage target reply.status reply.contentType reply.body)
    with code := reply.status }

def usable (target : Target) : Answer → Except Outcome Reply
  | .unreachable => .error (noAnswer target)
  | .truncated => .error (brokenAnswer target)
  | .reply reply => if 400 ≤ reply.status then .error (refused target reply) else .ok reply

def exchange (target : Target) (request : Request) (next : Reply → Conversation Outcome) :
    Conversation Outcome :=
  .ask request fun answer =>
    match usable target answer with
    | .ok reply => next reply
    | .error outcome => .done outcome

/-! ## Power states -/

/-- The power state in the reply to a poll; none if the reply is undecodable. A
chassis without a state and any manager that answers are on. -/
def reportedState? (resource : ResourceKind) (body : Bytes) : Option String := do
  let value ← Json.read? body
  match resource with
  | .computerSystem | .outlet => (Redfish.powerState? value).map (·.getD "")
  | .chassis => (Redfish.powerState? value).map (·.getD Outcome.stateOn)
  | .manager => (Redfish.managerId? value).map fun _ => Outcome.stateOn
  | .unknown => none

/-- The outcome of a poll that was answered. A resource of unknown kind has no
state and gives no reason. -/
def polled (target : Target) (body : Bytes) : Outcome :=
  match target.resource with
  | .unknown => .unfinished target
  | resource =>
    match reportedState? resource body with
    | some state => .found target state
    | none => .failed target (target.bmcKind ++ " Response Decode Error")

def readState (gateway : Gateway) (target : Target) : Conversation Outcome :=
  if gateway.simulation then .done (.simulated target)
  else
    exchange target (gateway.request target .get target.basePath) fun reply =>
      .done (polled target reply.body)

/-! ## Power transitions -/

def outletNumber? (hostname : String) : Option Nat :=
  match hostname.toList.dropWhile (· != 'v') with
  | [] => none
  | _ :: rest =>
    Text.naturalBelow? (Word.bound 32) (String.ofList (rest.takeWhile (· != 'v')))

example : outletNumber? "x3000m0p0v17" = some 17 := by decide +kernel

/-- What to send for a reset token; none if the outlet has no number. -/
def changeBody? (target : Target) (token : String) : Option Json :=
  match target.traits.outletMaker with
  | some .hpe =>
    (outletNumber? target.hostname).map fun outlet => Redfish.outletRequest outlet token
  | some .serverTech => some (Redfish.powerStateRequest token)
  | none => some (Redfish.resetRequest token)

def sessionPath : String := "/redfish/v1/SessionService/Sessions"

def sessionTokenHeader : String := "x-auth-token"

def postChange (gateway : Gateway) (target : Target) (body : Json)
    (sessionToken : Option Bytes) : Conversation Outcome :=
  let request := gateway.jsonRequest target .post target.actionPath (Redfish.body body)
  exchange target { request with sessionToken } fun _ => .done (.succeeded target "")

def sendChange (gateway : Gateway) (target : Target) (body : Json) : Conversation Outcome :=
  match target.traits.outletMaker with
  | some .hpe =>
    let session := Redfish.body (Redfish.sessionRequest target.user target.password)
    exchange target (gateway.jsonRequest target .post sessionPath session) fun reply =>
      postChange gateway target body (reply.header? sessionTokenHeader)
  | _ => postChange gateway target body none

/-- Carry out a transition. The power button is pressed only when the component
is not yet in the state asked for. -/
def change (gateway : Gateway) (transition : Transition) (target : Target) :
    Conversation Outcome :=
  match gateway.settings.resetToken transition target.resetTokens with
  | .error error =>
    .done (.failed target (target.bmcKind ++ " " ++ target.host ++ ": " ++ error.message))
  | .ok token =>
    match changeBody? target token with
    | none =>
      .done (.failed target ("Could not get outlet number for " ++ target.hostname))
    | some body =>
      if gateway.simulation then .done (.simulated target)
      else if token = pushPowerButton then
        (gateway.readState target).bind fun probe =>
          if probe.isOk && probe.state == transition.name then
            .done (.found target probe.state)
          else sendChange gateway target body
      else sendChange gateway target body

/-! ## Power caps -/

def powerPath (target : Target) : String :=
  if target.powerPath.isEmpty then Path.powerOf target.basePath else target.powerPath

def readCaps (gateway : Gateway) (target : Target) : Conversation Outcome :=
  if gateway.simulation then .done (.simulated target)
  else
    exchange target (gateway.request target .get (powerPath target)) fun reply =>
      .done (.succeeded target (Text.lossy reply.body))

def untaggedMark : String := "Controls.Deep"

def patchCaps (gateway : Gateway) (target : Target) (body : Bytes)
    (ifMatch : Option String) : Conversation Outcome :=
  let request := gateway.jsonRequest target .patch (powerPath target) body
  exchange target { request with ifMatch } fun reply =>
    .done (.succeeded target (Text.lossy reply.body))

def powerResource? (text : String) : Option Redfish.Power :=
  (Json.read? (Text.utf8 text)).bind Redfish.Power.ofJson?

def writeTagged (gateway : Gateway) (target : Target) (body : Bytes) :
    Conversation Outcome :=
  if gateway.simulation then .done (.simulated target)
  else if Text.occursIn untaggedMark (powerPath target) then
    patchCaps gateway target body none
  else
    (gateway.readCaps target).bind fun current =>
      if current.isOk then
        match powerResource? current.message with
        | some power => patchCaps gateway target body power.etag
        | none =>
          .done (.failed target "SetPowerCap unable to unmarshal status request")
      else .done current

def postCaps (gateway : Gateway) (target : Target) (body : Bytes) : Conversation Outcome :=
  if gateway.simulation then .done (.simulated target)
  else
    exchange target (gateway.jsonRequest target .post target.limitPath body) fun _ =>
      .done (.succeeded target "")

def writeCaps (gateway : Gateway) (target : Target) (body : Bytes) : Conversation Outcome :=
  match target.traits.capStyle with
  | .posted => postCaps gateway target body
  | .indexed | .members => writeTagged gateway target body

/-! ## Commands -/

def withoutHost (target : Target) : Outcome :=
  .failed target
    ("Unknown " ++ target.bmcKind ++ " (" ++ target.kind.name ++ " Controller)")

def call (gateway : Gateway) (command : Command) (target : Target) : Conversation Outcome :=
  if target.host.isEmpty then .done (withoutHost target)
  else
    match command with
    | .readState => gateway.readState target
    | .change transition => gateway.change transition target
    | .readCaps => gateway.readCaps target
    | .writeCaps body => gateway.writeCaps target body

/-! ## Waiting for Off -/

def confirmsOff (outcome : Outcome) : Bool :=
  outcome.isOk && outcome.state == Outcome.stateOff

def neverOff (target : Target) : Outcome :=
  .failed target "exceeded retries waiting for component to be Off"

/-- Poll a target until it is off, with a pause before each of at most `retries`
further polls. -/
def awaitOff (gateway : Gateway) (target : Target) (pause : Nat) :
    (retries : Nat) → Conversation Outcome
  | 0 =>
    (gateway.call .readState target).bind fun poll =>
      .done (if confirmsOff poll then .found target Outcome.stateOff else neverOff target)
  | retries + 1 =>
    (gateway.call .readState target).bind fun poll =>
      if confirmsOff poll then .done (.found target Outcome.stateOff)
      else .pause pause (awaitOff gateway target pause retries)

end Gateway

end ClusterPower
