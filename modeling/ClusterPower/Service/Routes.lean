import ClusterPower.Http.RequestUri
import ClusterPower.Json.Record
import ClusterPower.Pool.Basic

/-!
The HTTP face of the service: three read-only routes that tell whether it lives,
whether it takes work, and how its pool of workers is doing.
-/

namespace ClusterPower.Service

open Http

inductive Body where
  | empty
  | text (content : String)
  | json (value : Json)
deriving Inhabited

structure Response where
  status : Nat
  body : Body := .empty
deriving Inhabited

structure View where
  simulation : Bool
  pool : Pool

/-! ## Routes -/

def liveness (_ : View) : Response where
  status := 204

def readiness (view : View) : Response where
  status := if view.pool.isRunning then 204 else 503

def health (view : View) : Response where
  status := 200
  body := .json (.object [
    ("simulation_only", .boolean view.simulation),
    ("worker_pool", .object [
      ("workers", .ofNat view.pool.size),
      ("queue_capacity", .ofNat view.pool.capacity),
      ("queued", .ofNat view.pool.queued),
      ("running", .ofNat view.pool.running)])])

def routes : List (String × (View → Response)) :=
  [("/capmc/v1/liveness", liveness), ("/capmc/v1/readiness", readiness),
    ("/capmc/v1/health", health)]

def noRoute (uri : RequestUri) : Response where
  status := 404
  body := .text ("No route for " ++ uri.text)

/-- Answer a request. Routes are read-only, and a request for the head gets no
body from them. -/
def respond (view : View) (method : String) (uri : RequestUri) : Response :=
  match routes.lookup uri.path with
  | none => noRoute uri
  | some route =>
    if method = "GET" then route view
    else if method = "HEAD" then { route view with body := .empty }
    else { status := 405 }

end ClusterPower.Service
