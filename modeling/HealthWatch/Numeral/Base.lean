/-!
# Numerals in other bases

Digits in a base of at most sixteen, letters in either case, and the characters that are given by
their number.
-/

namespace HealthWatch.Numeral

def hexValue? (c : Char) : Option Nat :=
  if '0' ≤ c ∧ c ≤ '9' then some (c.toNat - 48)
  else if 'a' ≤ c ∧ c ≤ 'f' then some (c.toNat - 87)
  else if 'A' ≤ c ∧ c ≤ 'F' then some (c.toNat - 55)
  else none

def baseValue? (base : Nat) (c : Char) : Option Nat :=
  (hexValue? c).filter (· < base)

/-- The number with the digits `cs` in a base; no digits give zero. -/
def ofBase? (base : Nat) (cs : List Char) : Option Nat :=
  cs.foldlM (fun n c => (baseValue? base c).map (base * n + ·)) 0

def readHex? (count : Nat) (cs : List Char) : Option (Nat × List Char) :=
  if (cs.take count).length = count then
    (ofBase? 16 (cs.take count)).map fun n => (n, cs.drop count)
  else none

def charOf? (n : Nat) : Option Char :=
  if n.isValidChar then some (Char.ofNat n) else none

/-- Reads `count` hexadecimal digits as a character. -/
def readCode? (count : Nat) (cs : List Char) : Option (Char × List Char) := do
  let (n, cs) ← readHex? count cs
  return (← charOf? n, cs)

/-- The number is the first half of a character beyond the basic plane. -/
def isHighHalf (n : Nat) : Bool :=
  0xD800 ≤ n && n ≤ 0xDBFF

def isLowHalf (n : Nat) : Bool :=
  0xDC00 ≤ n && n ≤ 0xDFFF

def joinHalves (high low : Nat) : Char :=
  Char.ofNat (0x10000 + (high - 0xD800) * 0x400 + (low - 0xDC00))

end HealthWatch.Numeral
