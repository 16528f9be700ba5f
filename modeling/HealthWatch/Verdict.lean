import HealthWatch.Scale.Basic

/-!
# Verdicts

A `Verdict` is the immutable outcome of evaluating one check: a status, and optionally a message,
the cause of a failure and the measurement behind it. Verdicts compare by status alone.
-/

namespace HealthWatch

open Threshold (Kind)

@[ext]
structure Measurement where
  value : String
  thresholds : List (Kind × String)
  deriving DecidableEq, Repr

namespace Measurement

/-- A value together with a scale. -/
def take {α : Type} [Quantity α] (value : α) (scale : Scale α) : Measurement where
  value := Quantity.render value
  thresholds := scale.thresholds.map fun t => (t.kind, Quantity.render t.value)

def threshold? (m : Measurement) (kind : Kind) : Option String :=
  (m.thresholds.find? (·.1 == kind)).map (·.2)

def toJson (m : Measurement) : Json :=
  .object [
    ("value", .string m.value),
    ("thresholds", .array (m.thresholds.map fun t => .array [.string t.1.name, .string t.2]))]

def thresholdOfJson? : Json → Option (Kind × String)
  | .array [kind, .string text] => (Kind.ofJson? kind).map fun kind => (kind, text)
  | _ => none

def ofJson? : Json → Option Measurement
  | .array [value, thresholds] => build? value thresholds
  | .object members => do
    build? (← Json.member? members "value") (← Json.member? members "thresholds")
  | _ => none
where
  build? (value thresholds : Json) : Option Measurement := do
    return ⟨← value.toString?, ← thresholds.toList? thresholdOfJson?⟩

end Measurement

/-- Why a check failed: an error and the contexts put around it one after another. -/
@[ext]
structure Cause where
  root : String
  contexts : List String
  deriving DecidableEq, Repr

namespace Cause

/-- The texts of a cause, the outermost first. -/
def chain (c : Cause) : List String :=
  c.contexts.reverse ++ [c.root]

def message (c : Cause) : String :=
  ": ".intercalate c.chain

end Cause

@[ext]
structure Verdict where
  status : Status
  note : Option String
  cause : Option Cause
  data : Option Measurement
  deriving DecidableEq, Repr

namespace Verdict

def new (status : Status) (note : Option String) : Verdict :=
  ⟨status, note, none, none⟩

def healthy : Verdict := new .ok none
def ok (message : String) : Verdict := new .ok (some message)
def warning (message : String) : Verdict := new .warning (some message)
def critical (message : String) : Verdict := new .critical (some message)
def unknown (message : String) : Verdict := new .unknown (some message)

/-- A verdict with a cause, which also gives the message. -/
def failedWith (status : Status) (cause : Cause) : Verdict :=
  ⟨status, none, some cause, none⟩

def failed (cause : Cause) : Verdict :=
  failedWith .critical cause

/-- The verdict on a check that did not end in time. -/
def timedOut : Verdict :=
  critical "health check timed out"

/-- The verdict with another message and the same cause. -/
def withMessage (v : Verdict) (message : String) : Verdict :=
  { v with note := some message }

def withData (v : Verdict) (data : Measurement) : Verdict :=
  { v with data := some data }

/-- The message given, or else that of the cause. -/
def message? (v : Verdict) : Option String :=
  match v.note with
  | some note => some note
  | none => v.cause.map Cause.message

def isHealthy (v : Verdict) : Bool :=
  v.status.isOk

def display (v : Verdict) : String :=
  match v.message? with
  | some message => v.status.name ++ ": " ++ message
  | none => v.status.name

def compare (a b : Verdict) : Ordering :=
  Ord.compare a.status b.status

end Verdict

def worstStatus (verdicts : List Verdict) : Status :=
  Status.worst (verdicts.map Verdict.status)

end HealthWatch
