import HealthWatch.Text.Lowercase

/-!
# Lower case is final

What `lowercase` makes of a text stays as it is: `lowercaseFrom_lowered` says so of each character,
and `lowercase_of_fixed` of a text of such characters. The table of runs is looked at pair by pair:
no run leads into another.
-/

namespace HealthWatch.Text

namespace Run

/-- No lower case of a character of the run `r` is in the run `q`: their ranges are apart, or both
go in steps of two beside each other. -/
def misses (r q : Run) : Bool :=
  let up := r.2.2.2.toNat
  let down := (-r.2.2.2).toNat
  Nat.blt (r.2.1 + up) (q.1 + down) || Nat.blt (q.2.1 + down) (r.1 + up) ||
    ((r.2.2.1 == 2 || r.1 == r.2.1) && q.2.2.1 == 2 && (r.1 + up + down) % 2 != q.1 % 2)

/-- The lower case of every character of the run is a character. -/
def lands (r : Run) : Bool :=
  let up := r.2.2.2.toNat
  let down := (-r.2.2.2).toNat
  Nat.ble down (r.1 + up) && (Nat.blt (r.2.1 + up) (0xD800 + down) ||
    Nat.blt (0xDFFF + down) (r.1 + up) && Nat.blt (r.2.1 + up) (0x110000 + down))

variable {r q : Run} {n : Nat}

theorem valid_of_lands (lands : r.lands = true) (covered : r.covers n = true) :
    (n + r.2.2.2).toNat + (-r.2.2.2).toNat = n + r.2.2.2.toNat ∧
      (n + r.2.2.2).toNat.isValidChar := by
  obtain ⟨first, last, stride, distance⟩ := r
  simp only [Run.lands, covers, Nat.blt_eq, Nat.ble_eq, Bool.or_eq_true, Bool.and_eq_true,
    decide_eq_true_eq] at lands covered
  dsimp only [Nat.isValidChar]
  omega

theorem not_covers_of_misses {m : Nat} (apart : r.misses q = true) (covered : r.covers n = true)
    (target : m + (-r.2.2.2).toNat = n + r.2.2.2.toNat) : q.covers m = false := by
  obtain ⟨first, last, stride, distance⟩ := r
  obtain ⟨first', last', stride', distance'⟩ := q
  simp only [misses, covers, Nat.blt_eq, Bool.or_eq_true, Bool.and_eq_true, beq_iff_eq, bne_iff_ne,
    decide_eq_true_eq] at apart covered target
  rw [Bool.eq_false_iff]
  intro hit
  simp only [covers, Bool.and_eq_true, beq_iff_eq, decide_eq_true_eq] at hit
  rcases apart with (apart | apart) | ⟨⟨even, rfl⟩, odd⟩
  · omega
  · omega
  · rcases even with rfl | rfl
    · omega
    · obtain rfl : n = first := by omega
      omega

end Run

theorem toNat_ofNat {n : Nat} (valid : n.isValidChar) : (Char.ofNat n).toNat = n := by
  rw [Char.ofNat, dif_pos valid]
  rfl

theorem lowercaseRuns_apart : ∀ r ∈ lowercaseRuns, Run.lands r = true ∧
    Run.misses r (0x130, 0x130, 1, 0) = true ∧ ∀ q ∈ lowercaseRuns, Run.misses r q = true := by
  decide +kernel

theorem lowercaseChar_lowered {c d : Char} (lowered : d ∈ lowercaseChar c) :
    lowercaseChar d = [d] := by
  rw [lowercaseChar] at lowered
  split at lowered
  · rcases List.mem_cons.mp lowered with rfl | last
    · decide +kernel
    · obtain rfl := List.mem_singleton.mp last
      decide +kernel
  · rename_i dotless
    cases found : lowercaseRuns.find? (·.covers c.toNat) with
    | none =>
      rw [found] at lowered
      obtain rfl := List.mem_singleton.mp lowered
      rw [lowercaseChar, if_neg dotless, found]
    | some r =>
      rw [found] at lowered
      obtain rfl := List.mem_singleton.mp lowered
      have covered : r.covers c.toNat = true := List.find?_some (p := (Run.covers · c.toNat)) found
      obtain ⟨lands, dotted, apart⟩ := lowercaseRuns_apart r (List.mem_of_find?_eq_some found)
      obtain ⟨target, valid⟩ := Run.valid_of_lands lands covered
      have value : (Char.ofNat (c.toNat + r.2.2.2).toNat).toNat = (c.toNat + r.2.2.2).toNat :=
        toNat_ofNat valid
      have other : (c.toNat + r.2.2.2).toNat ≠ 0x130 := by
        intro same
        have missed := Run.not_covers_of_misses dotted covered target
        rw [same] at missed
        cases missed
      -- The runs of the table miss each other, so no run covers the lower case of `c`.
      have absent : lowercaseRuns.find? (Run.covers · (c.toNat + r.2.2.2).toNat) = none := by
        refine List.find?_eq_none.mpr fun q member => ?_
        simp [Run.not_covers_of_misses (apart q member) covered target]
      rw [lowercaseChar, value, if_neg other, absent]

theorem lowercaseFrom_lowered {before cs : List Char} {d : Char}
    (lowered : d ∈ lowercaseFrom before cs) : lowercaseChar d = [d] := by
  induction cs generalizing before with
  | nil => cases lowered
  | cons c rest ih =>
    rw [lowercaseFrom] at lowered
    rcases List.mem_append.mp lowered with here | later
    · split at here
      · obtain rfl := List.mem_singleton.mp here
        decide +kernel
      · exact lowercaseChar_lowered here
    · exact ih later

theorem lowercaseFrom_of_fixed {before cs : List Char}
    (fixed : ∀ c ∈ cs, lowercaseChar c = [c]) : lowercaseFrom before cs = cs := by
  induction cs generalizing before with
  | nil => rfl
  | cons c rest ih =>
    obtain ⟨first, later⟩ := List.forall_mem_cons.mp fixed
    have noSigma : c ≠ 'Σ' := by
      rintro rfl
      exact absurd first (by decide +kernel)
    simp [lowercaseFrom, noSigma, first, ih later]

theorem lowercase_of_fixed {s : String} (fixed : ∀ c ∈ s.toList, lowercaseChar c = [c]) :
    lowercase s = s := by
  rw [lowercase, lowercaseFrom_of_fixed fixed, String.ofList_toList]

/-- What is left of a text in lower case behind its first characters is in lower case. -/
theorem lowercase_drop_lowercase (s : String) (n : Nat) :
    lowercase (String.ofList ((lowercase s).toList.drop n)) =
      String.ofList ((lowercase s).toList.drop n) := by
  refine lowercase_of_fixed fun c member => ?_
  rw [String.toList_ofList, lowercase, String.toList_ofList] at member
  exact lowercaseFrom_lowered (List.mem_of_mem_drop member)

theorem lowercase_lowercase (s : String) : lowercase (lowercase s) = lowercase s := by
  simpa using lowercase_drop_lowercase s 0

end HealthWatch.Text
