import ClusterPower.Conversation
import ClusterPower.Pool.Basic

/-!
Letting a pool run until nothing moves. Waiting submissions enter as there is
room, and the jobs are carried out one after the other, the oldest first, each by
the first idle worker. A stopped pool gives up its workers and its queue first.
-/

namespace ClusterPower.Pool

/-- What happened while a pool came to rest. -/
structure Settled where
  pool : Pool
  entered : List Job := []
  reports : List JobReport := []
deriving Inhabited

def enterWithin (settled : Settled) : Nat → Settled
  | 0 => settled
  | count + 1 =>
    match settled.pool.enter? 0 with
    | some (job, pool) =>
      enterWithin { settled with pool, entered := settled.entered ++ [job] } count
    | none => settled

def enterAll (settled : Settled) : Settled :=
  enterWithin settled settled.pool.waiting.length

def idleWorker? (pool : Pool) : Option Nat :=
  pool.workers.findIdx? fun worker =>
    match worker with
    | .idle => true
    | _ => false

/-- Carry out jobs until the queue is empty or no worker is idle. The count
bounds their number. -/
def serveWithin (call : Job → Conversation Outcome) (settled : Settled) :
    Nat → Conversation Settled
  | 0 => .done settled
  | count + 1 =>
    let settled := enterAll settled
    match (idleWorker? settled.pool).bind fun index =>
        (settled.pool.take? index).map fun taken => (index, taken) with
    | none => .done settled
    | some (_, .skipped report, pool) =>
      serveWithin call { settled with pool, reports := settled.reports ++ [report] } count
    | some (index, .called job, pool) =>
      (call job).bind fun outcome =>
        match pool.report? index outcome with
        | some (report, pool) =>
          serveWithin call { settled with pool, reports := settled.reports ++ [report] } count
        | none => .done { settled with pool }

def serve (call : Job → Conversation Outcome) (pool : Pool) : Conversation Settled :=
  serveWithin call { pool } (pool.queue.length + pool.waiting.length + 1)

def abortAll (settled : Settled) : Settled :=
  (List.range settled.pool.workers.length).foldl (fun settled index =>
    match settled.pool.abort? index with
    | some (reports, pool) => { settled with pool, reports := settled.reports ++ reports }
    | none => settled) settled

def windDown (pool : Pool) : Settled :=
  let settled := abortAll { pool }
  match settled.pool.drain? with
  | some (reports, pool) => { settled with pool, reports := settled.reports ++ reports }
  | none => settled

def settle (call : Job → Conversation Outcome) (pool : Pool) : Conversation Settled :=
  if pool.stopped then .done (windDown pool) else serve call pool

end ClusterPower.Pool
