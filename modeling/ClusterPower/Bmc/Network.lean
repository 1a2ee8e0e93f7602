import ClusterPower.Conversation
import ClusterPower.Http.Address
import ClusterPower.Text.Base64
import ClusterPower.Text.Blank

/-!
A network of BMCs that follow a script. Each route answers requests of one
method for one path with its replies in turn, the last one for ever. The network
notes the requests that reach it; a link that is down lets none through.
-/

namespace ClusterPower.Bmc

open Http

inductive Fault where
  | dropped
  | truncated
deriving DecidableEq, Repr

structure ScriptedReply where
  status : Nat := 200
  contentType : Option String := some "application/json"
  headers : List (String × String) := []
  body : Bytes := []
  fault : Option Fault := none
deriving DecidableEq, Repr, Inhabited

structure Route where
  method : String
  path : String
  host : String := "*"
  replies : List ScriptedReply
deriving DecidableEq, Repr, Inhabited

/-- A request as a BMC received it. -/
structure Received where
  method : String
  host : String
  path : String
  headers : List (String × String)
  body : Bytes
deriving DecidableEq, Repr, Inhabited

structure Network where
  routes : List Route
  received : List Received := []
  linkUp : Bool := true
deriving Inhabited

namespace Network

/-! ## Routes -/

def anyHost : String := "*"

def Route.answers (route : Route) (method host path : String) : Bool :=
  route.method == method && route.host == host && route.path == path

/-- A network with the given routes; of several for the same requests the last
stays. -/
def ofRoutes (routes : List Route) (linkUp : Bool) : Network where
  routes := routes.foldl (fun held route =>
    held.filter (fun other => !Route.answers other route.method route.host route.path) ++
      [route]) []
  linkUp

def Route.next (route : Route) : Option ScriptedReply × Route :=
  match route.replies with
  | [] => (none, route)
  | [last] => (some last, route)
  | first :: rest => (some first, { route with replies := rest })

def takeReply (found : Route → Bool) : List Route → Option ScriptedReply × List Route
  | [] => (none, [])
  | route :: rest =>
    if found route then
      let (reply, route) := Route.next route
      (reply, route :: rest)
    else
      let (reply, rest) := takeReply found rest
      (reply, route :: rest)

def notFound : ScriptedReply := { status := 404, contentType := none }

def reply (network : Network) (method host path : String) : ScriptedReply × Network :=
  let ofHost (route : Route) := Route.answers route method host path
  let ofAny (route : Route) := Route.answers route method anyHost path
  let found := if network.routes.any ofHost then ofHost else ofAny
  let (reply, routes) := takeReply found network.routes
  (reply.getD notFound, { network with routes })

/-! ## Requests -/

def isHeaderByte (byte : UInt8) : Bool :=
  byte == 0x09 || (0x20 ≤ byte && byte != 0x7F)

def headerText (value : Bytes) : String :=
  Text.lossy (
    ((value.dropWhile fun byte => byte == 0x20 || byte == 0x09).reverse.dropWhile
      fun byte => byte == 0x20 || byte == 0x09).reverse)

def headersOf (request : Request) : List (String × String) :=
  let credentials := Text.utf8 (request.user ++ ":" ++ request.password)
  let authorization := "Basic " ++ String.ofList (Text.Base64.encode credentials)
  [("accept", "*/*"), ("authorization", authorization)] ++
    (if request.sendsJson then [("content-type", "application/json")] else []) ++
    (request.ifMatch.map fun tag => ("if-match", headerText (Text.utf8 tag))).toList ++
    (request.sessionToken.map fun token => ("x-auth-token", headerText token)).toList

def isBodiless (status : Nat) : Bool :=
  status == 204 || status == 304

def answerOf (reply : ScriptedReply) : Answer :=
  match reply.fault with
  | some .dropped => .unreachable
  | some .truncated => if isBodiless reply.status then plain else .truncated
  | none => plain
where
  plain : Answer :=
    .reply {
      status := reply.status
      headers :=
        (reply.contentType.map fun value => ("content-type", Text.utf8 value)).toList ++
          reply.headers.map fun (name, value) => (name.map Char.toLower, Text.utf8 value)
      body := if isBodiless reply.status then [] else reply.body }

/-- Answer a request. It arrives only over plain HTTP, at a well-formed address
and with well-formed headers. -/
def answer (request : Request) (network : Network) : Answer × Network :=
  match Address.parse? request.address with
  | none => (.unreachable, network)
  | some address =>
    let tagIsValid := request.ifMatch.all fun tag => (Text.utf8 tag).all isHeaderByte
    if network.linkUp && address.scheme == "http" && tagIsValid then
      let received : Received := {
        method := request.method.name
        host := address.host
        path := address.path
        headers := headersOf request
        body := request.body }
      let (reply, network) := network.reply request.method.name address.host address.path
      (answerOf reply, { network with received := received :: network.received })
    else (.unreachable, network)

/-- The requests received since the last report, in order, and a network that
has forgotten them. -/
def report (network : Network) : List Received × Network :=
  (network.received.reverse, { network with received := [] })

end Network

end ClusterPower.Bmc
