import HealthWatch.Numeral.Integer
import HealthWatch.Proofs.Numeral.Digits

/-!
# Integers read back

`read_decimal` says that the decimal form of an integer is read as this integer, for every width and
up to its ends: no digit on the way leaves the width if the last one does not.
-/

namespace HealthWatch.Numeral

namespace Width

variable {w : Width} {negative : Bool} {n : Nat}

theorem Holds.between {low high i : Int} (least : w.Holds low) (greatest : w.Holds high)
    (above : low ≤ i) (below : i ≤ high) : w.Holds i :=
  ⟨Int.le_trans least.1 above, Int.le_trans below greatest.2⟩

theorem signed_of_negative {i : Int} (held : w.Holds i) (below : i < 0) : w.signed = true := by
  by_contra unsigned
  have least : w.least = 0 := if_neg unsigned
  have bound := held.1
  omega

def away : Bool → Nat → Int
  | true, n => -n
  | false, n => n

theorem holds_away_div (held : w.Holds (away negative n)) : w.Holds (away negative (n / 10)) := by
  cases negative with
  | false =>
    exact w.holds_zero.between held (by simp only [away]; omega) (by simp only [away]; omega)
  | true =>
    exact held.between w.holds_zero (by simp only [away]; omega) (by simp only [away]; omega)

theorem readDigits_append (negative : Bool) (acc : Sized w) (cs ds : List Char) :
    w.readDigits negative acc (cs ++ ds) =
      (w.readDigits negative acc cs).bind fun read => w.readDigits negative read ds := by
  induction cs generalizing acc with
  | nil => rfl
  | cons c cs ih =>
    rw [List.cons_append, readDigits, readDigits]
    cases digitValue? c with
    | none => rfl
    | some d =>
      dsimp only
      by_cases held : w.Holds (if negative = true then 10 * acc.val - d else 10 * acc.val + d)
      · rw [dif_pos held, dif_pos held, ih]
      · rw [dif_neg held, dif_neg held]
        rfl

theorem readDigits_digit {acc i : Sized w} {d : Nat} (small : d < 10)
    (next : i.val = if negative = true then 10 * acc.val - d else 10 * acc.val + d) :
    w.readDigits negative acc [digitChar d] = .ok i := by
  rw [readDigits, digitValue?_digitChar small]
  dsimp only
  rw [dif_pos (next ▸ i.holds)]
  exact congrArg Except.ok (Sized.ext next.symm)

/-- Every digit goes further away from zero, so that the width holds what has been read before. -/
theorem readDigits_digits (held : w.Holds (away negative n)) :
    w.readDigits negative (.zero w) (digits n) = .ok ⟨away negative n, held⟩ := by
  induction n using digits.induct with
  | case1 n small =>
    rw [digits, if_pos small]
    refine readDigits_digit small ?_
    cases negative <;> simp [Sized.zero, away]
  | case2 n large ih =>
    rw [digits, if_neg large, readDigits_append, ih (holds_away_div held)]
    refine readDigits_digit (Nat.mod_lt n (by decide)) ?_
    cases negative <;> simp only [away, if_true, Bool.false_eq_true, if_false] <;> omega

theorem readChars_of_digit {c : Char} {cs : List Char} (digit : (digitValue? c).isSome = true) :
    w.readChars (c :: cs) = w.readDigits false (.zero w) (c :: cs) := by
  have plus : c ≠ '+' := by rintro rfl; contradiction
  have minus : c ≠ '-' := by rintro rfl; contradiction
  simp [readChars, plus, minus]

theorem readChars_of_minus (signed : w.signed = true) {cs : List Char} (nonempty : cs ≠ []) :
    w.readChars ('-' :: cs) = w.readDigits true (.zero w) cs := by
  obtain ⟨c, rest, rfl⟩ := List.exists_cons_of_ne_nil nonempty
  simp [readChars, signed]

/-- The decimal form of an integer is read as the integer. -/
theorem read_decimal (i : Sized w) : w.read (decimal i.val) = .ok i := by
  rw [read, decimal, String.toList_ofList]
  by_cases below : i.val < 0
  · have value : away true i.val.natAbs = i.val := by simp only [away]; omega
    rw [if_pos below, readChars_of_minus (signed_of_negative i.holds below) (digits_ne_nil _),
      readDigits_digits (value.symm ▸ i.holds)]
    exact congrArg Except.ok (Sized.ext value)
  · have value : away false i.val.natAbs = i.val := by simp only [away]; omega
    obtain ⟨c, cs, split⟩ := List.exists_cons_of_ne_nil (digits_ne_nil i.val.natAbs)
    have digit : (digitValue? c).isSome = true :=
      digitValue?_of_mem_digits (split ▸ List.mem_cons_self)
    rw [if_neg below, split, readChars_of_digit digit, ← split,
      readDigits_digits (value.symm ▸ i.holds)]
    exact congrArg Except.ok (Sized.ext value)

end Width

end HealthWatch.Numeral
