import HealthWatch.Numeral.Decimal

/-!
# Integers of a fixed width

`Width.read` reads a decimal numeral as an integer of a given width: an optional sign, then ASCII
digits. The digits are taken from left to right and the first problem decides the fault.
-/

namespace HealthWatch.Numeral

/-- A range of integers: `bits` binary digits, with or without negative numbers. -/
structure Width where
  signed : Bool
  bits : Nat
  deriving DecidableEq, Repr

namespace Width

def i8 : Width := ⟨true, 8⟩
def i64 : Width := ⟨true, 64⟩
def i128 : Width := ⟨true, 128⟩
def u8 : Width := ⟨false, 8⟩
def u32 : Width := ⟨false, 32⟩
def u64 : Width := ⟨false, 64⟩

def least (w : Width) : Int :=
  if w.signed then -(Nat.pow 2 (w.bits - 1) : Int) else 0

def greatest (w : Width) : Int :=
  if w.signed then (Nat.pow 2 (w.bits - 1) : Int) - 1 else (Nat.pow 2 w.bits : Int) - 1

/-- `i` fits the width. -/
def Holds (w : Width) (i : Int) : Prop :=
  w.least ≤ i ∧ i ≤ w.greatest

instance (w : Width) (i : Int) : Decidable (w.Holds i) :=
  inferInstanceAs (Decidable (_ ∧ _))

end Width

@[ext]
structure Sized (w : Width) where
  val : Int
  holds : w.Holds val
  deriving DecidableEq

theorem Width.holds_zero (w : Width) : w.Holds 0 := by
  have h1 : 0 < Nat.pow 2 (w.bits - 1) := Nat.two_pow_pos _
  have h2 : 0 < Nat.pow 2 w.bits := Nat.two_pow_pos _
  unfold Width.Holds Width.least Width.greatest
  constructor <;> split <;> omega

def Sized.zero (w : Width) : Sized w := ⟨0, w.holds_zero⟩

inductive IntegerFault where
  | empty
  | badDigit
  | tooLarge
  | tooSmall
  deriving DecidableEq, Repr

def IntegerFault.message : IntegerFault → String
  | .empty => "cannot parse integer from empty string"
  | .badDigit => "invalid digit found in string"
  | .tooLarge => "number too large to fit in target type"
  | .tooSmall => "number too small to fit in target type"

namespace Width

/-- Appends the digits `cs` to `acc`, away from zero, as long as the width holds the result. -/
def readDigits (w : Width) (negative : Bool) (acc : Sized w) :
    List Char → Except IntegerFault (Sized w)
  | [] => .ok acc
  | c :: cs =>
    match digitValue? c with
    | none => .error .badDigit
    | some d =>
      let next := if negative then 10 * acc.val - d else 10 * acc.val + d
      if h : w.Holds next then w.readDigits negative ⟨next, h⟩ cs
      else .error (if negative then .tooSmall else .tooLarge)

/-- Reads a numeral. A sign needs digits after it, and an unsigned width has no minus sign. -/
def readChars (w : Width) : List Char → Except IntegerFault (Sized w)
  | [] => .error .empty
  | ['+'] => .error .badDigit
  | ['-'] => .error .badDigit
  | '+' :: cs => w.readDigits false (.zero w) cs
  | '-' :: cs => if w.signed then w.readDigits true (.zero w) cs else .error .badDigit
  | cs => w.readDigits false (.zero w) cs

def read (w : Width) (s : String) : Except IntegerFault (Sized w) :=
  w.readChars s.toList

end Width

end HealthWatch.Numeral
