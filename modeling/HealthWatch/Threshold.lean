import HealthWatch.Quantity
import HealthWatch.Status

/-!
# Thresholds

A `Threshold` is a boundary value of one of four kinds. A measured value reaches a threshold if it
is at least the boundary.
-/

namespace HealthWatch

namespace Threshold

inductive Kind where
  | min
  | warning
  | critical
  | max
  deriving DecidableEq, Repr

namespace Kind

def all : List Kind := [.min, .warning, .critical, .max]

def name : Kind → String
  | .min => "min"
  | .warning => "warning"
  | .critical => "critical"
  | .max => "max"

def ofName? (name : String) : Option Kind :=
  all.find? (·.name == name)

/-- The status that the kind stands for. Beyond the maximum nothing is known. -/
def nominal : Kind → Status
  | .min => .ok
  | .warning => .warning
  | .critical => .critical
  | .max => .unknown

/-- The status that a check reports: to exceed the maximum is critical. -/
def reported : Kind → Status
  | .max => .critical
  | kind => kind.nominal

def ofJson? (j : Json) : Option Kind :=
  j.toName?.bind ofName?

end Kind

end Threshold

structure Threshold (α : Type) where
  kind : Threshold.Kind
  value : α
  deriving DecidableEq, Repr

namespace Threshold

variable {α : Type}

/-- The value is at least the boundary. -/
def reachedBy [Quantity α] (t : Threshold α) (value : α) : Bool :=
  Quantity.le t.value value

def toJson [Stored α] (t : Threshold α) : Json :=
  .object [("kind", .string t.kind.name), ("value", Stored.toJson t.value)]

end Threshold

end HealthWatch
