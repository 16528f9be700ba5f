import HealthWatch.Proofs.Scale.Construction
import HealthWatch.Scale.Document
import HealthWatch.Scale.Parser

/-!
# The highest threshold that a value reaches

A value reaches the first threshold that it is not below. That is a highest one if the scale lists
the highest value first, as scales of bounds and scales read from texts do. A stored scale keeps the
order in which it was stored: `reached?_highest` says for which orders the first threshold reached
is still a highest one, and `stored_lowest_first` is an accepted one for which it is not.
-/

namespace HealthWatch

namespace Scale

variable {α : Type} [Quantity α]

/-- The answer to what a value reaches: no threshold that the value reaches is higher. -/
def Highest (s : Scale α) (value : α) : Option (Threshold α) → Prop
  | none => ∀ u ∈ s.thresholds, u.reachedBy value = false
  | some t => t ∈ s.thresholds ∧ t.reachedBy value = true ∧
      ∀ u ∈ s.thresholds, u.reachedBy value = true → Quantity.le u.value t.value = true

/-- The highest value stands first. -/
def Descending (s : Scale α) : Prop :=
  s.thresholds.Pairwise fun t u => Quantity.le u.value t.value = true

/-- What stands before a higher threshold stands behind one of that higher value, too. -/
def Orderly (s : Scale α) : Prop :=
  ∀ before t after, s.thresholds = before ++ t :: after →
    ∀ u ∈ after, Quantity.lt t.value u.value = true →
      ∃ x ∈ before, Quantity.le x.value u.value = true ∧ Quantity.le u.value x.value = true

instance [DecidableEq α] (s : Scale α) (value : α) :
    (answer : Option (Threshold α)) → Decidable (s.Highest value answer)
  | none => inferInstanceAs (Decidable (∀ u ∈ s.thresholds, _))
  | some t => inferInstanceAs (Decidable (t ∈ s.thresholds ∧ _ ∧ ∀ u ∈ s.thresholds, _))

instance (s : Scale α) : Decidable s.Descending :=
  inferInstanceAs (Decidable (List.Pairwise _ _))

/-! ### The first threshold reached -/

variable {s : Scale α} {value : α} {t : Threshold α}

theorem highest_of_missed (missed : s.reached? value = none) : s.Highest value none := by
  intro u member
  simpa using List.find?_eq_none.mp missed u member

variable [Quantity.Ordered α]

theorem Descending.orderly (descending : s.Descending) : s.Orderly := by
  intro before t after split u member higher
  have ordered := descending
  rw [Descending, split] at ordered
  obtain ⟨-, tail, -⟩ := List.pairwise_append.mp ordered
  have below := (List.pairwise_cons.mp tail).1 u member
  exact absurd below ((Quantity.Ordered.lt_iff ..).mp higher)

theorem Orderly.highest (orderly : s.Orderly) (value : α) :
    s.Highest value (s.reached? value) := by
  cases found : s.reached? value with
  | none => exact highest_of_missed found
  | some t =>
    obtain ⟨reached, before, after, split, missed⟩ := split_of_reached found
    refine ⟨by simp [split], reached, fun u member under => ?_⟩
    rw [split, List.mem_append, List.mem_cons] at member
    rcases member with early | rfl | late
    · simp [missed u early] at under
    · exact Quantity.le_refl u.value
    · -- A higher one behind it has an equal before it, which would have been found first.
      by_contra above
      obtain ⟨x, early, low, -⟩ :=
        orderly before t after split u late ((Quantity.Ordered.lt_iff ..).mpr above)
      have first : x.reachedBy value = true := Quantity.Ordered.le_trans _ _ _ low under
      simp [missed x early] at first

/-- It is enough to ask for the boundaries themselves. -/
theorem orderly_of_highest (highest : ∀ u ∈ s.thresholds, s.Highest u.value (s.reached? u.value)) :
    s.Orderly := by
  intro before t after split u late higher
  have present : u ∈ s.thresholds := by simp [split, late]
  have itself : u.reachedBy u.value = true := Quantity.le_refl u.value
  have reached : t.reachedBy u.value = true := Quantity.le_of_lt higher
  have answer := highest u present
  have first : s.reached? u.value = (before.find? (·.reachedBy u.value)).or (some t) := by
    simp [reached?, split, List.find?_append, reached]
  cases early : before.find? (·.reachedBy u.value) with
  | none =>
    rw [first, early] at answer
    exact absurd (answer.2.2 u present itself) ((Quantity.Ordered.lt_iff ..).mp higher)
  | some x =>
    rw [first, early] at answer
    obtain ⟨-, low, greatest⟩ := answer
    exact ⟨x, List.mem_of_find?_eq_some early, low, greatest u present itself⟩

/-! ### Where scales come from -/

omit [Quantity.Ordered α] in
theorem descending_empty : (empty : Scale α).Descending :=
  List.Pairwise.nil

theorem descending_scale (b : Bounds α) : b.scale.Descending :=
  (Bounds.ranked_scale Quantity.orderedOn_all fun _ _ _ => trivial).imp And.left

theorem descending_parse {ε : Type} {read : String → Except ε α} {text : String}
    (accepted : parse read text = .ok s) : s.Descending := by
  unfold parse at accepted
  split at accepted
  · obtain rfl := Except.ok.inj accepted
    exact descending_empty
  · split at accepted
    · cases accepted
    · obtain rfl := Except.ok.inj accepted
      exact descending_scale _
    · obtain rfl := Except.ok.inj accepted
      exact descending_scale _
    · cases accepted

end Scale

/-! ### Stored scales -/

section Stored

variable {β : Type} [Stored β]

theorem Threshold.Kind.ofJson?_name (kind : Kind) : ofJson? (.string kind.name) = some kind := by
  cases kind <;> decide

theorem Threshold.ofJson?_toJson (lawful : ∀ x : β, Stored.ofJson? (Stored.toJson x) = some x)
    (t : Threshold β) : ofJson? t.toJson = some t := by
  simp [toJson, ofJson?, Json.member?, ofJson?.build?, Kind.ofJson?_name, lawful]

/-- Every list of thresholds is accepted when it is stored, in whatever order, and kept as it is. -/
theorem Scale.ofJson?_toJson (lawful : ∀ x : β, Stored.ofJson? (Stored.toJson x) = some x)
    (s : Scale β) : ofJson? s.toJson = some s := by
  have items : (s.thresholds.map Threshold.toJson).mapM Threshold.ofJson? = some s.thresholds := by
    induction s.thresholds with
    | nil => rfl
    | cons t rest ih => simp [Threshold.ofJson?_toJson lawful, ih]
  simp [toJson, ofJson?, Json.get?, Json.member?, Json.toList?, items]

end Stored

theorem Numeral.Sized.ofJson?_toJson (w : Width) (x : Sized w) :
    Stored.ofJson? (Stored.toJson x) = some x := by
  simp [Stored.ofJson?, Stored.toJson, x.holds]

namespace Scale

variable {α : Type} [Quantity α] [Quantity.Ordered α]

/-- Which scales answer with a highest threshold, whatever the value: scales of bounds, scales read
from texts and the empty scale, which list the highest value first, and of all others, such as
stored ones, exactly the orderly ones. -/
theorem reached?_highest :
    (∀ b : Bounds α, b.scale.Descending) ∧
    (∀ (ε : Type) (read : String → Except ε α) text (s : Scale α),
      parse read text = .ok s → s.Descending) ∧
    (empty : Scale α).Descending ∧
    (∀ s : Scale α, s.Descending → ∀ value, s.Highest value (s.reached? value)) ∧
    (∀ s : Scale α, (∀ value, s.Highest value (s.reached? value)) ↔ s.Orderly) ∧
    (∀ [Stored α], (∀ x : α, Stored.ofJson? (Stored.toJson x) = some x) →
      ∀ s : Scale α, ofJson? s.toJson = some s) := by
  refine ⟨descending_scale, fun _ _ _ _ => descending_parse, descending_empty, ?_, ?_, ?_⟩
  · intro s descending value
    exact descending.orderly.highest value
  · intro s
    exact ⟨fun highest => orderly_of_highest fun u _ => highest u.value, Orderly.highest⟩
  · intro _ lawful s
    exact ofJson?_toJson lawful s

open Numeral (Sized)

/-- The maximum of this scale stands behind a lower threshold, and behind a critical one of the same
value. -/
def repeating : Scale (Sized .i64) :=
  ⟨[⟨.critical, ⟨8, by decide⟩⟩, ⟨.warning, ⟨5, by decide⟩⟩, ⟨.max, ⟨8, by decide⟩⟩]⟩

theorem reached?_highest_i64 :
    (∃ s : Scale (Sized .i64), parse Legible.read " 8,5 " = .ok s ∧
      s.Highest ⟨6, by decide⟩ (some ⟨.critical, ⟨5, by decide⟩⟩)) ∧
    ofJson? repeating.toJson = some repeating ∧ ¬repeating.Descending ∧
    repeating.Highest ⟨9, by decide⟩ (repeating.reached? ⟨9, by decide⟩) := by
  obtain ⟨-, parsed, -, descending, orderly, stored⟩ := reached?_highest (α := Sized .i64)
  have accepted : parse Legible.read " 8,5 " =
      .ok (⟨[⟨.warning, ⟨8, by decide⟩⟩, ⟨.critical, ⟨5, by decide⟩⟩]⟩ : Scale (Sized .i64)) := by
    rfl
  refine ⟨⟨_, accepted, descending _ (parsed _ _ _ _ accepted) ⟨6, by decide⟩⟩, ?_, ?_, ?_⟩
  · exact stored (Sized.ofJson?_toJson .i64) repeating
  · decide
  · exact (orderly repeating).mpr (orderly_of_highest (by decide)) ⟨9, by decide⟩

/-- Thresholds that are stored with the lowest one first. -/
def lowestFirst : Json :=
  .object [("thresholds", .array [
    .object [("kind", .string "warning"), ("value", .integer 5)],
    .object [("kind", .string "critical"), ("value", .integer 8)]])]

/-- They are accepted as they stand, and 9 then reaches the warning threshold at 5 although it
reaches the critical one at 8 as well. -/
theorem stored_lowest_first :
    ∃ s : Scale (Sized .i64), ofJson? lowestFirst = some s ∧ ¬s.Descending ∧
      s.reached? ⟨9, by decide⟩ = some ⟨.warning, ⟨5, by decide⟩⟩ ∧
      ¬s.Highest ⟨9, by decide⟩ (s.reached? ⟨9, by decide⟩) := by
  refine ⟨⟨[⟨.warning, ⟨5, by decide⟩⟩, ⟨.critical, ⟨8, by decide⟩⟩]⟩, ?_, ?_, ?_, ?_⟩
  · decide
  · decide
  · decide
  · decide

end Scale

end HealthWatch
