import ClusterPower.Proofs.Pool.Operation
import Mathlib.Data.Multiset.AddSub

/-!
The places of a queue. A place is taken by a job in the queue, or by a submission that is about
to enter it, or is free, which it is only when nobody waits without a place. So the submissions
that wait are of two kinds: in front those that are about to enter, and behind them those that
have no place yet.
-/

namespace ClusterPower.Pool

def entering (pool : Pool) : List Job := pool.waiting.take pool.granted

def outside (pool : Pool) : List Job := pool.waiting.drop pool.granted

def next? (pool : Pool) : Option Job :=
  if pool.closed then none else pool.outside.head?

structure Placed (pool : Pool) : Prop where
  within : pool.queue.length + pool.granted ≤ pool.capacity
  lined : pool.granted ≤ pool.waiting.length

variable {pool : Pool} {job : Job} {index : Nat}

theorem placed_of_unclosed (unclosed : pool.closed = false)
    (bounded : pool.queue.length ≤ pool.capacity) : pool.Placed where
  within := by
    rw [granted_of_unclosed unclosed]
    omega
  lined := by
    rw [granted_of_unclosed unclosed]
    omega

namespace Placed

variable (placed : pool.Placed)

include placed

end Placed

/-! ## Lists without one item -/

section Split

variable {Item : Type} {items : List Item} {item : Item} {place count : Nat}

end Split

/-! ## What becomes of the places -/

theorem granted_leave {rest : List Job} (placed : pool.Placed) (queued : pool.queue = job :: rest)
    (workers : List Worker) (running : Nat) :
    { pool with queue := rest, workers, running }.granted =
      pool.granted + pool.next?.toList.length := by
  have within := placed.within
  rw [queued, List.length_cons] at within
  by_cases closed : pool.closed = true
  · rw [next?, if_pos closed, granted, if_pos closed, granted, if_pos closed]
    rfl
  · rw [Bool.not_eq_true] at closed
    have before := granted_of_unclosed closed
    have after := @granted_of_unclosed { pool with queue := rest, workers, running } closed
    rw [queued, List.length_cons] at before
    rw [after, next?, closed, if_neg Bool.false_ne_true, outside, List.head?_drop]
    by_cases more : pool.granted < pool.waiting.length
    · rw [List.getElem?_eq_getElem more, Option.toList_some, List.length_singleton]
      dsimp only
      omega
    · rw [List.getElem?_eq_none (by omega), Option.toList_none, List.length_nil]
      dsimp only
      omega

theorem outside_eq_append (pool : Pool) :
    pool.outside = pool.next?.toList ++ pool.outside.drop pool.next?.toList.length := by
  unfold next?
  split
  · rfl
  · cases pool.outside with
    | nil => rfl
    | cons first rest => rfl

theorem outside_leave {rest : List Job} (placed : pool.Placed) (queued : pool.queue = job :: rest)
    (workers : List Worker) (running : Nat) :
    pool.next?.toList ++ { pool with queue := rest, workers, running }.outside =
      pool.outside := by
  rw [outside, granted_leave placed queued, ← List.drop_drop]
  exact pool.outside_eq_append.symm

section Closed

variable (closed : pool.closed = true)

include closed

theorem granted_of_closed : pool.granted = pool.kept :=
  if_pos closed

theorem granted_turnBack (waiting : List Job) :
    { pool with waiting, kept := pool.kept - 1 }.granted = pool.granted - 1 := by
  rw [granted_of_closed closed]
  exact granted_of_closed closed

theorem granted_dismiss (waiting : List Job) : { pool with waiting }.granted = pool.granted := by
  rw [granted_of_closed closed]
  exact granted_of_closed closed

end Closed

end ClusterPower.Pool
