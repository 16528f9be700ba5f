import HealthWatch.Proofs.Numeral.Integer
import HealthWatch.Proofs.Scale.Explanation
import HealthWatch.Proofs.Scale.Grammar

/-!
# Scales read back

`parse_renders` says that a scale is read from the decimal forms of its boundaries, for integers of
every width and whatever blank characters stand around the numerals, and that a measurement against
it shows these numerals again.
-/

namespace HealthWatch

open Threshold (Kind)
open Numeral (Sized Width decimal)

/-! ### Numerals as tokens -/

structure Text.Solid (token : String) : Prop where
  nonempty : token.toList ≠ []
  visible : ∀ c ∈ token.toList, isBlank c = false
  whole : ',' ∉ token.toList

theorem Numeral.digit_bounds {c : Char} (digit : (digitValue? c).isSome = true) :
    48 ≤ c.toNat ∧ c.toNat ≤ 57 := by
  unfold digitValue? at digit
  split at digit
  · next range => exact ⟨range.1, range.2⟩
  · contradiction

theorem Numeral.mem_decimal {i : Int} {c : Char} (member : c ∈ (decimal i).toList) :
    c = '-' ∨ (digitValue? c).isSome = true := by
  rw [decimal, String.toList_ofList] at member
  split at member
  · rcases List.mem_cons.mp member with rfl | digit
    · exact .inl rfl
    · exact .inr (digitValue?_of_mem_digits digit)
  · exact .inr (digitValue?_of_mem_digits member)

theorem Text.solid_decimal (i : Int) : Solid (decimal i) where
  nonempty := by
    rw [decimal, String.toList_ofList]
    split
    · exact List.cons_ne_nil _ _
    · exact Numeral.digits_ne_nil _
  visible := by
    intro c member
    rcases Numeral.mem_decimal member with rfl | digit
    · decide
    · have bounds := Numeral.digit_bounds digit
      simp only [isBlank, Bool.or_eq_false_iff, Bool.and_eq_false_iff, decide_eq_false_iff_not,
        beq_eq_false_iff_ne]
      omega
  whole := by
    intro member
    rcases Numeral.mem_decimal member with minus | digit
    · exact absurd minus (by decide)
    · exact absurd digit (by decide)

namespace Text

variable {token left right : String}

theorem comma_notMem_of_blank (nothing : blank left = true) : ',' ∉ left.toList := by
  intro member
  exact absurd (List.all_eq_true.mp nothing _ member) (by decide)

/-- Between blank texts, a solid one is what is left of the three. -/
theorem Solid.trimmed (solid : Solid token) (before : blank left = true)
    (after : blank right = true) :
    Trimmed (left.toList ++ token.toList ++ right.toList) token.toList where
  framed := ⟨left.toList, right.toList, List.append_assoc .., List.all_eq_true.mp before,
    List.all_eq_true.mp after⟩
  first := fun c begins => solid.visible c (List.mem_of_mem_head? begins)
  last := fun c ends => solid.visible c (List.mem_of_getLast? ends)

theorem Solid.comma_notMem (solid : Solid token) (before : blank left = true)
    (after : blank right = true) : ',' ∉ left.toList ++ token.toList ++ right.toList := by
  simp only [List.mem_append, not_or]
  exact ⟨⟨comma_notMem_of_blank before, solid.whole⟩, comma_notMem_of_blank after⟩

theorem Solid.exists_visible (solid : Solid token) : ∃ c ∈ token.toList, isBlank c = false := by
  obtain ⟨c, rest, split⟩ := List.exists_cons_of_ne_nil solid.nonempty
  have member : c ∈ token.toList := split ▸ List.mem_cons_self
  exact ⟨c, member, solid.visible c member⟩

end Text

namespace Scale

variable {w : Width} {a b c d : String}

theorem tokenized_one {token : String} (solid : Text.Solid token) (blank : Text.blank a = true)
    (blank' : Text.blank b = true) : Tokenized (a ++ token ++ b) [token] := by
  refine ⟨[a.toList ++ token.toList ++ b.toList], List.cons_ne_nil _ _, ?_, ?_, ?_⟩
  · simpa only [List.forall_mem_singleton] using solid.comma_notMem blank blank'
  · simp
  · exact .cons (solid.trimmed blank blank') .nil

theorem tokenized_two {first second : String} (solid : Text.Solid first)
    (solid' : Text.Solid second) (blank : ∀ frame ∈ [a, b, c, d], Text.blank frame = true) :
    Tokenized (a ++ first ++ b ++ "," ++ c ++ second ++ d) [first, second] := by
  simp only [List.forall_mem_cons] at blank
  obtain ⟨beforeFirst, afterFirst, beforeSecond, afterSecond, -⟩ := blank
  refine ⟨[a.toList ++ first.toList ++ b.toList, c.toList ++ second.toList ++ d.toList],
    List.cons_ne_nil _ _, ?_, ?_, ?_⟩
  · simp only [List.forall_mem_cons]
    exact ⟨solid.comma_notMem beforeFirst afterFirst,
      solid'.comma_notMem beforeSecond afterSecond, List.forall_mem_nil _⟩
  · simp [List.intercalate]
  · exact .cons (solid.trimmed beforeFirst afterFirst)
      (.cons (solid'.trimmed beforeSecond afterSecond) .nil)

theorem read_render (i : Sized w) : Legible.read (Quantity.render i) = .ok i :=
  congrArg (Except.mapError NumeralFault.integer) (w.read_decimal i)

theorem parse_critical (critical : Sized w) (blank : Text.blank a = true)
    (blank' : Text.blank b = true) :
    parse Legible.read (a ++ Quantity.render critical ++ b) =
      .ok (Bounds.ofCalls [(.critical, critical)]).scale := by
  have solid := Text.solid_decimal critical.val
  obtain ⟨c, member, visible⟩ := solid.exists_visible
  refine Spelled.parse_eq_ok (.one ⟨c, ?_, visible⟩ (tokenized_one solid blank blank')
    (read_render critical))
  simp only [String.toList_append, List.mem_append]
  exact .inl (.inr member)

theorem parse_both (warning critical : Sized w)
    (blank : ∀ frame ∈ [a, b, c, d], Text.blank frame = true) :
    parse Legible.read
        (a ++ Quantity.render warning ++ b ++ "," ++ c ++ Quantity.render critical ++ d) =
      .ok (Bounds.ofCalls [(.warning, warning), (.critical, critical)]).scale := by
  refine Spelled.parse_eq_ok (.two ⟨',', ?_, by decide⟩
    (tokenized_two (Text.solid_decimal warning.val) (Text.solid_decimal critical.val) blank)
    ⟨read_render warning, read_render critical⟩)
  simp only [String.toList_append, List.mem_append]
  exact .inl (.inl (.inl (.inr (by decide))))

/-- A measurement shows the decimal form of the boundary that was set last. -/
theorem threshold?_ofCalls (value : Sized w) (calls : List (Kind × Sized w)) (kind : Kind) :
    (Measurement.take value (Bounds.ofCalls calls).scale).threshold? kind =
      (Bounds.lastSet? calls kind).map fun boundary => decimal boundary.val := by
  rw [Measurement.threshold?_take, Bounds.get?_scale, Bounds.get?_ofCalls, Option.map_map]
  rfl

/-- Numerals are read as the boundaries that they were written from, and shown as they were written:
a critical one that stands alone, and a warning and a critical one with a comma between them, the
higher of which the scale lists first. -/
theorem parse_renders (warning critical : Sized w)
    (blank : ∀ frame ∈ [a, b, c, d], Text.blank frame = true) :
    (∃ s, parse Legible.read (a ++ decimal critical.val ++ b) = .ok s ∧
      s = (Bounds.ofCalls [(.critical, critical)]).scale ∧
      ∀ value : Sized w, (Measurement.take value s).threshold? .warning = none ∧
        (Measurement.take value s).threshold? .critical = some (decimal critical.val)) ∧
    ∃ s, parse Legible.read
        (a ++ decimal warning.val ++ b ++ "," ++ c ++ decimal critical.val ++ d) = .ok s ∧
      s = (Bounds.ofCalls [(.warning, warning), (.critical, critical)]).scale ∧
      ∀ value : Sized w,
        (Measurement.take value s).threshold? .warning = some (decimal warning.val) ∧
        (Measurement.take value s).threshold? .critical = some (decimal critical.val) := by
  refine ⟨⟨_, parse_critical critical (blank a (by simp)) (blank b (by simp)), rfl, fun value => ?_⟩,
    ⟨_, parse_both warning critical blank, rfl, fun value => ?_⟩⟩
  · exact ⟨threshold?_ofCalls .., threshold?_ofCalls ..⟩
  · exact ⟨threshold?_ofCalls .., threshold?_ofCalls ..⟩

/-- The ends of a width, the warning at the upper one, between blank characters of several kinds. -/
theorem parse_renders_ends :
    (∀ frame ∈ ["\u3000", "\t", "", "\u2028\n"], Text.blank frame = true) ∧
    ∃ s : Scale (Sized .i8),
      parse Legible.read ("\u3000" ++ "127" ++ "\t" ++ "," ++ "" ++ "-128" ++ "\u2028\n") = .ok s ∧
      s = ⟨[⟨.warning, ⟨127, by decide⟩⟩, ⟨.critical, ⟨-128, by decide⟩⟩]⟩ ∧
      (Measurement.take ⟨0, by decide⟩ s).threshold? .critical = some "-128" := by
  have blank : ∀ frame ∈ ["\u3000", "\t", "", "\u2028\n"], Text.blank frame = true := by decide
  obtain ⟨-, s, read, built, shown⟩ :=
    parse_renders (w := .i8) ⟨127, by decide⟩ ⟨-128, by decide⟩ blank
  have low : decimal (-128) = "-128" := by decide +kernel
  have high : decimal 127 = "127" := by decide +kernel
  have critical := (shown ⟨0, by decide⟩).2
  rw [low] at read critical
  rw [high] at read
  exact ⟨blank, s, read, built, critical⟩

end Scale

end HealthWatch
