import HealthWatch.Numeral.Decimal
import Mathlib.Data.List.TakeDrop

/-!
# The digits of a number

The decimal digits of a number are digits, are found as such at the head of a text
(`spanDigits_digits`), and do not begin with a zero unless they are a single one
(`digits_eq_zero_cons`).
-/

namespace HealthWatch.Numeral

theorem digitValue?_digitChar {d : Nat} (small : d < 10) : digitValue? (digitChar d) = some d :=
  (by decide : ∀ d < 10, digitValue? (digitChar d) = some d) d small

theorem digits_ne_nil (n : Nat) : digits n ≠ [] := by
  rw [digits]
  split <;> simp

theorem digitValue?_of_mem_digits {n : Nat} {c : Char} (member : c ∈ digits n) :
    (digitValue? c).isSome = true := by
  induction n using digits.induct with
  | case1 n small =>
    rw [digits, if_pos small] at member
    obtain rfl := List.mem_singleton.mp member
    rw [digitValue?_digitChar small]
    rfl
  | case2 n large ih =>
    rw [digits, if_neg large] at member
    rcases List.mem_append.mp member with front | last
    · exact ih front
    · obtain rfl := List.mem_singleton.mp last
      rw [digitValue?_digitChar (Nat.mod_lt n (by decide))]
      rfl

/-- Only zero has a first digit of zero, and no other digit. -/
theorem digits_eq_zero_cons {n : Nat} {ds : List Char} (zero : digits n = '0' :: ds) : ds = [] := by
  have positive : ∀ n, 0 < n → (digits n).head? ≠ some '0' := by
    intro n
    induction n using digits.induct with
    | case1 n small =>
      intro positive
      rw [digits, if_pos small]
      exact (by decide : ∀ d < 10, 0 < d → [digitChar d].head? ≠ some '0') n small positive
    | case2 n large ih =>
      intro _
      rw [digits, if_neg large]
      cases front : digits (n / 10) with
      | nil => exact absurd front (digits_ne_nil _)
      | cons c ds =>
        have first := ih (by omega)
        rwa [front] at first
  rcases Nat.eq_zero_or_pos n with rfl | above
  · rw [digits, if_pos (by decide)] at zero
    exact (List.cons.inj zero).2.symm
  · exact absurd (by rw [zero]; rfl) (positive n above)

theorem spanDigits_digits (n : Nat) {rest : List Char}
    (ends : ∀ c ∈ rest.head?, digitValue? c = none) :
    spanDigits (digits n ++ rest) = (digits n, rest) := by
  have all : ∀ c ∈ digits n, (digitValue? c).isSome = true := fun _ => digitValue?_of_mem_digits
  have none : rest.takeWhile (fun c => (digitValue? c).isSome) = [] ∧
      rest.dropWhile (fun c => (digitValue? c).isSome) = rest := by
    cases rest with
    | nil => exact ⟨rfl, rfl⟩
    | cons c rest => simp [ends c rfl]
  rw [spanDigits, List.span_eq_takeWhile_dropWhile, List.takeWhile_append_of_pos all,
    List.dropWhile_append_of_pos all, none.1, none.2, List.append_nil]

end HealthWatch.Numeral
