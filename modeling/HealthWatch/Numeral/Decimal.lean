/-!
# Decimal digits

`digits n` is the decimal form of a natural number, without leading zeros, and `ofDigits?` reads
digits back. `decimal` adds the sign of an integer.
-/

namespace HealthWatch.Numeral

def digitChar (d : Nat) : Char :=
  Char.ofNat (48 + d)

def digitValue? (c : Char) : Option Nat :=
  if '0' ≤ c ∧ c ≤ '9' then some (c.toNat - 48) else none

/-- The decimal digits of `n`, the first one not zero unless `n` is. -/
def digits (n : Nat) : List Char :=
  if n < 10 then [digitChar n] else digits (n / 10) ++ [digitChar (n % 10)]
termination_by n

def ofDigitsFrom? (acc : Nat) : List Char → Option Nat
  | [] => some acc
  | c :: cs => (digitValue? c).bind fun d => ofDigitsFrom? (10 * acc + d) cs

/-- The number with the digits `cs`; none of them gives zero. -/
def ofDigits? (cs : List Char) : Option Nat :=
  ofDigitsFrom? 0 cs

def natural (n : Nat) : String :=
  String.ofList (digits n)

/-- The decimal form of an integer: a minus sign before a negative one, no other sign. -/
def decimal (i : Int) : String :=
  String.ofList (if i < 0 then '-' :: digits i.natAbs else digits i.natAbs)

def spanDigits (cs : List Char) : List Char × List Char :=
  cs.span fun c => (digitValue? c).isSome

end HealthWatch.Numeral
