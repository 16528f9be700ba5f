import HealthWatch.Json.Basic
import HealthWatch.Numeral.Binary64.Reader
import HealthWatch.Numeral.Binary64.Shortest
import HealthWatch.Numeral.Integer

/-!
# Measured values

A `Quantity` is a type of values that can be compared and shown. Two values need not be comparable:
a NaN compares with nothing. `Legible` quantities are read from texts, `Stored` ones from JSON.
-/

namespace HealthWatch

open Numeral

class Quantity (α : Type) where
  compare? : α → α → Option Ordering
  render : α → String

namespace Quantity

variable {α : Type} [Quantity α]

/-- `a` is at most `b`; values that do not compare are not. -/
def le (a b : α) : Bool :=
  match compare? a b with
  | some .lt | some .eq => true
  | _ => false

def lt (a b : α) : Bool :=
  compare? a b == some .lt

end Quantity

inductive NumeralFault where
  | integer (fault : IntegerFault)
  | float (fault : FloatFault)
  deriving DecidableEq, Repr

def NumeralFault.message : NumeralFault → String
  | .integer fault => fault.message
  | .float fault => fault.message

class Legible (α : Type) extends Quantity α where
  read : String → Except NumeralFault α

class Stored (α : Type) where
  toJson : α → Json
  ofJson? : Json → Option α

/-! ### Integers -/

instance (w : Width) : Legible (Sized w) where
  compare? a b := some (compare a.val b.val)
  render a := decimal a.val
  read s := (w.read s).mapError .integer

instance (w : Width) : Stored (Sized w) where
  toJson a := .integer a.val
  ofJson? j :=
    match j with
    | .integer i => if h : w.Holds i then some ⟨i, h⟩ else none
    | _ => none

/-! ### Floating point numbers -/

instance : Legible Binary64 where
  compare? := Binary64.compare?
  render := Binary64.render
  read s := (Binary64.read s).mapError .float

instance : Stored Binary64 where
  toJson x := .real x
  ofJson? j :=
    match j with
    | .integer i => some (.ofNat (decide (i < 0)) i.natAbs)
    | .real x => some x
    | _ => none

/-! ### Texts -/

instance : Legible String where
  compare? a b := some (if a < b then .lt else if a = b then .eq else .gt)
  render s := s
  read s := .ok s

instance : Stored String where
  toJson s := .string s
  ofJson? := Json.toString?

end HealthWatch
