import HealthWatch.Threshold

/-!
# Scales

A `Scale` lists thresholds. One that is built from `Bounds` has at most one threshold of a kind and
lists the highest value first; equal values stand in the order max, critical, warning, min, so that
the most severe kind of a tie comes first. A value reaches the first threshold it is not below.
-/

namespace HealthWatch

open Threshold (Kind)

/-- Thresholds in the order in which they are tried. -/
@[ext]
structure Scale (α : Type) where
  thresholds : List (Threshold α)
  deriving DecidableEq, Repr

namespace Scale

variable {α : Type}

def empty : Scale α := ⟨[]⟩

def isEmpty (s : Scale α) : Bool :=
  s.thresholds.isEmpty

def get? (s : Scale α) (kind : Kind) : Option (Threshold α) :=
  s.thresholds.find? (·.kind == kind)

variable [Quantity α]

def reached? (s : Scale α) (value : α) : Option (Threshold α) :=
  s.thresholds.find? (·.reachedBy value)

/-- The value reaches the threshold of a kind, if there is one. -/
def reaches (s : Scale α) (kind : Kind) (value : α) : Bool :=
  (s.get? kind).any (·.reachedBy value)

/-- Rates a value by the critical and the warning threshold alone. -/
def classify (s : Scale α) (value : α) : Status :=
  if s.reaches .critical value then .critical
  else if s.reaches .warning value then .warning
  else .ok

end Scale

@[ext]
structure Bounds (α : Type) where
  min : Option α
  warning : Option α
  critical : Option α
  max : Option α
  deriving DecidableEq, Repr

namespace Bounds

variable {α : Type}

def none : Bounds α := ⟨.none, .none, .none, .none⟩

def get? (b : Bounds α) : Kind → Option α
  | .min => b.min
  | .warning => b.warning
  | .critical => b.critical
  | .max => b.max

def set (b : Bounds α) (kind : Kind) (value : α) : Bounds α :=
  match kind with
  | .min => { b with min := some value }
  | .warning => { b with warning := some value }
  | .critical => { b with critical := some value }
  | .max => { b with max := some value }

/-- The thresholds that are set: max, critical, warning, min. -/
def thresholds (b : Bounds α) : List (Threshold α) :=
  [Kind.max, .critical, .warning, .min].filterMap fun kind =>
    (b.get? kind).map fun value => ⟨kind, value⟩

variable [Quantity α]

/-- Inserts a threshold from the end on: past those of lower values, up to the first one that is not
lower. -/
def insertThreshold (t : Threshold α) : List (Threshold α) → List (Threshold α)
  | [] => [t]
  | u :: rest =>
    if (u :: rest).all fun x => Quantity.lt x.value t.value then t :: u :: rest
    else u :: insertThreshold t rest

/-- The thresholds from the highest value down, sorted by insertion. Equal values keep their order,
and none moves past a value that it does not compare with. -/
def scale (b : Bounds α) : Scale α :=
  ⟨b.thresholds.foldl (fun sorted t => insertThreshold t sorted) []⟩

end Bounds

end HealthWatch
