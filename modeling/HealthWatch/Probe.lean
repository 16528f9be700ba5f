import HealthWatch.Fault
import HealthWatch.Outcome
import HealthWatch.Scale.Assessment
import HealthWatch.World

/-!
# Probes

A `Probe` is a check: a leaf that measures or asks something, or a check wrapped in decorators. The
leaf is given by what each of its calls does, so a probe is a value and evaluating it changes the
`World` only.
-/

namespace HealthWatch

inductive Act where
  | finish (after : Nat) (outcome : Outcome)
  /-- The call never ends. -/
  | hang

/-- A leaf: what its n-th call does, counted from zero, and whether it takes part in rounds. -/
structure Leaf where
  id : String
  plan : Nat → Act
  active : Bool

namespace Leaf

/-- The leaf that acts as listed, call by call, and repeats the last act for ever. -/
def ofList (id : String) (acts : List Act) (active : Bool) : Leaf where
  id := id
  plan n := (acts[min n (acts.length - 1)]?).getD .hang
  active := active

end Leaf

inductive Probe where
  | leaf (l : Leaf)
  /-- A check without protection: evaluating it panics with a text. -/
  | dying (id text : String)
  /-- Runs the inner check and then repeats its verdict for `skips` invocations. -/
  | skip (cell : Cell.Key) (skips : Nat) (inner : Probe)
  /-- Gives the inner check at most `ms` milliseconds. -/
  | limit (ms : Nat) (inner : Probe)

namespace Probe

/-- A check that runs on every `every`-th invocation. -/
def everyNth (cell : Cell.Key) (every : Nat) (inner : Probe) : Except Fault Probe :=
  match every with
  | 0 => .error (.invalidSetup .zeroSkipPeriod)
  | skips + 1 => .ok (.skip cell skips inner)

/-- The check takes part in rounds. A decorated check does if the leaf inside it does. -/
def isActive (w : World) : Probe → Bool
  | .leaf l => !w.off l.id && l.active
  | .dying _ _ => true
  | .skip _ _ inner => inner.isActive w
  | .limit _ inner => inner.isActive w

def reply (p : Probe) (outcome : Outcome) : Reply :=
  match p with
  | .dying _ text => .died text
  | _ => .verdict outcome.caught

end Probe

/-! ### Gauges -/

inductive Reading (α : Type) where
  | value (v : α)
  | error (cause : Cause)
  | panic (payload : Payload)

def Reading.outcome {α : Type} (rate : α → Verdict) : Reading α → Outcome
  | .value v => .verdict (rate v)
  | .error cause => .error cause
  | .panic payload => .panic payload

def gaugeActs {α : Type} (rate : α → Verdict) (readings : List (Nat × Reading α)) : List Act :=
  readings.map fun r => .finish r.1 (r.2.outcome rate)

end HealthWatch
