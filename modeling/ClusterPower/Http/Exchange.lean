import ClusterPower.Text.Utf8

/-!
HTTP requests and what comes back for them, as far as power control needs them.
-/

namespace ClusterPower.Http

inductive Method where
  | get
  | post
  | patch
deriving DecidableEq, Repr

namespace Method

def name : Method → String
  | .get => "GET"
  | .post => "POST"
  | .patch => "PATCH"

end Method

/-- A request as it is attempted, before its address has been looked at. -/
structure Request where
  method : Method
  address : String
  user : String
  password : String
  sendsJson : Bool := false
  ifMatch : Option String := none
  sessionToken : Option Bytes := none
  body : Bytes := []
deriving DecidableEq, Repr

/-- A reply that was read to its end. Header names are in lower case. -/
structure Reply where
  status : Nat
  headers : List (String × Bytes)
  body : Bytes
deriving DecidableEq, Repr, Inhabited

namespace Reply

def header? (reply : Reply) (name : String) : Option Bytes :=
  reply.headers.lookup name

def isHeaderText (byte : UInt8) : Bool :=
  byte == 0x09 || (0x20 ≤ byte && byte ≤ 0x7E)

def contentType (reply : Reply) : String :=
  match reply.header? "content-type" with
  | some value => if value.all isHeaderText then Text.lossy value else ""
  | none => ""

end Reply

inductive Answer where
  | reply (reply : Reply)
  | truncated
  | unreachable
deriving DecidableEq, Repr, Inhabited

end ClusterPower.Http
