import HealthWatch.Text.Blank
import HealthWatch.Text.Pieces
import Mathlib.Data.List.TakeWhile

/-!
# Tokens of a text

What it is to be the trimmed form of a text, and to be its pieces between separators, said without
the functions that compute them. `trimmed_iff` and `pieces_eq_iff` say that the functions compute
just that.
-/

namespace HealthWatch.Text

/-! ### Trimming -/

/-- `inner` stands in `outer` between blank characters, and neither begins nor ends with one. -/
structure Trimmed (outer inner : List Char) : Prop where
  framed : ∃ left right, outer = left ++ (inner ++ right) ∧
    (∀ c ∈ left, isBlank c = true) ∧ ∀ c ∈ right, isBlank c = true
  first : ∀ c ∈ inner.head?, isBlank c = false
  last : ∀ c ∈ inner.getLast?, isBlank c = false

theorem dropWhile_append_of_head {p : Char → Bool} {left cs : List Char} (dropped : ∀ c ∈ left, p c = true)
    (kept : ∀ c ∈ cs.head?, p c = false) : (left ++ cs).dropWhile p = cs := by
  rw [List.dropWhile_append_of_pos dropped]
  cases cs with
  | nil => rfl
  | cons c cs => exact List.dropWhile_cons_of_neg (by simp [kept c rfl])

theorem Trimmed.trimChars_eq {outer inner : List Char} (trimmed : Trimmed outer inner) :
    trimChars outer = inner := by
  obtain ⟨⟨left, right, rfl, before, after⟩, first, last⟩ := trimmed
  cases inner with
  | nil =>
    rw [trimChars_eq_nil_iff, List.all_eq_true]
    simp only [List.nil_append, List.mem_append]
    rintro c (early | late)
    · exact before c early
    · exact after c late
  | cons c cs =>
    have ended : ∀ d ∈ right.reverse, isBlank d = true :=
      fun d member => after d (List.mem_reverse.mp member)
    rw [trimChars, dropWhile_append_of_head before (by simpa using first), List.reverse_append,
      dropWhile_append_of_head ended (by rwa [List.head?_reverse]), List.reverse_reverse]

theorem trimmed_trimChars (cs : List Char) : Trimmed cs (trimChars cs) := by
  let middle := cs.dropWhile isBlank
  have split : trimChars cs ++ (middle.reverse.takeWhile isBlank).reverse = middle := by
    rw [trimChars, ← List.reverse_append, List.takeWhile_append_dropWhile, List.reverse_reverse]
  refine ⟨⟨cs.takeWhile isBlank, (middle.reverse.takeWhile isBlank).reverse, ?_, ?_, ?_⟩, ?_, ?_⟩
  · rw [split, List.takeWhile_append_dropWhile]
  · exact fun c member => List.mem_takeWhile_imp member
  · exact fun c member => List.mem_takeWhile_imp (List.mem_reverse.mp member)
  · -- What is left begins as it did before its end was cut.
    intro c begins
    have first : middle.head? = some c := by
      rw [← split, List.head?_append, begins, Option.some_or]
    have kept := List.head?_dropWhile_not isBlank cs
    rwa [show cs.dropWhile isBlank = middle from rfl, first] at kept
  · intro c ends
    rw [trimChars, List.getLast?_reverse] at ends
    have kept := List.head?_dropWhile_not isBlank middle.reverse
    rwa [ends] at kept

theorem trimmed_iff {outer inner : List Char} : Trimmed outer inner ↔ trimChars outer = inner := by
  constructor
  · exact Trimmed.trimChars_eq
  · rintro rfl
    exact trimmed_trimChars outer

theorem blank_iff {s : String} : blank s = true ↔ trim s = "" := by
  rw [trim, String.ofList_eq_empty_iff, trimChars_eq_nil_iff, blank]

/-! ### Pieces -/

theorem pieces_eq_splitOn (separator : Char) (cs : List Char) :
    pieces separator cs = cs.splitOn separator := by
  induction cs with
  | nil => simp [pieces]
  | cons c cs ih =>
    rw [pieces, List.splitOn_cons_eq_if_modifyHead, ← ih]
    by_cases same : c = separator
    · simp [same]
    · cases split : pieces separator cs with
      | nil => exact absurd split (pieces_ne_nil separator cs)
      | cons piece rest => simp [same]

theorem notMem_of_mem_pieces {separator : Char} {cs piece : List Char}
    (member : piece ∈ pieces separator cs) : separator ∉ piece := by
  induction cs generalizing piece with
  | nil =>
    obtain rfl : piece = [] := by simpa [pieces] using member
    exact List.not_mem_nil
  | cons c cs ih =>
    unfold pieces at member
    split at member
    · rcases List.mem_cons.mp member with rfl | later
      · exact List.not_mem_nil
      · exact ih later
    · rename_i other
      split at member
      · rename_i split
        exact absurd split (pieces_ne_nil separator cs)
      · rename_i first rest split
        rw [split] at ih
        rcases List.mem_cons.mp member with rfl | later
        · rw [List.mem_cons, not_or]
          exact ⟨Ne.symm other, ih List.mem_cons_self⟩
        · exact ih (List.mem_cons_of_mem _ later)

/-- There is one way to write a text as pieces without the separator between separators. -/
theorem pieces_eq_iff {separator : Char} {cs : List Char} {split : List (List Char)} :
    pieces separator cs = split ↔
      split ≠ [] ∧ (∀ piece ∈ split, separator ∉ piece) ∧ [separator].intercalate split = cs := by
  constructor
  · rintro rfl
    exact ⟨pieces_ne_nil separator cs, fun piece => notMem_of_mem_pieces,
      intercalate_pieces separator cs⟩
  · rintro ⟨nonempty, apart, rfl⟩
    rw [pieces_eq_splitOn]
    exact List.splitOn_intercalate separator apart nonempty

end HealthWatch.Text
