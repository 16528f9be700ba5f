import HealthWatch.Fault

/-!
# Worker pools

A pool runs the tasks of a round. An owned pool runs them until it is shut down and cancels them
from then on; a borrowed pool belongs to someone else and is not shut down.
-/

namespace HealthWatch

inductive Engine where
  | borrowed
  | running
  | down
  deriving DecidableEq, Repr

structure Workers where
  size : Nat
  engine : Engine
  deriving DecidableEq, Repr

namespace Workers

def start (size : Nat) : Except Fault Workers :=
  if size = 0 then .error (.invalidSetup .emptyPool) else .ok ⟨size, .running⟩

def borrow : Workers := ⟨0, .borrowed⟩

/-- The pool owns threads that run. -/
def isOwned (w : Workers) : Bool :=
  w.engine == .running

/-- The threads of the pool are those of the caller. -/
def isBorrowed (w : Workers) : Bool :=
  w.engine == .borrowed

/-- The pool runs the tasks it is given, as opposed to cancelling them. -/
def isLive (w : Workers) : Bool :=
  w.engine != .down

def shutdown (w : Workers) : Workers :=
  match w.engine with
  | .borrowed => w
  | .running | .down => { w with engine := .down }

/-- The name of the threads of the pool, without their number. -/
def threadName (w : Workers) : String :=
  match w.engine with
  | .borrowed => "main"
  | .running | .down => "vitals-worker-"

/-- Gives the pool a task, which sees the name of its thread: the result, or nothing if the task is
cancelled. -/
def spawn {α : Type} (w : Workers) (task : String → α) : Option α :=
  if w.isLive then some (task w.threadName) else none

end Workers

end HealthWatch
