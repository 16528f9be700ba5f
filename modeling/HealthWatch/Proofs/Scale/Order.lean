import HealthWatch.Scale.Assessment
import Mathlib.Data.String.Basic
import Mathlib.Order.Compare

/-!
# Scales of ordered values

Values are `Ordered` if any two of them compare, as numbers and texts do. The scale of bounds whose
boundaries ascend lists them from the maximum down, so that the first threshold that a value reaches
is that of the most severe kind.
-/

namespace HealthWatch

open Threshold (Kind)

namespace Quantity

/-- Any two values compare. Values may be equal in this order without being the same. -/
class Ordered (α : Type) [Quantity α] : Prop where
  lt_iff (a b : α) : lt a b = true ↔ ¬le b a = true
  le_trans (a b c : α) : le a b = true → le b c = true → le a c = true

/-- Any two values of a part compare, also if values outside of it do not. -/
structure OrderedOn {α : Type} [Quantity α] (part : α → Prop) : Prop where
  lt_iff : ∀ a b, part a → part b → (lt a b = true ↔ ¬le b a = true)
  le_trans : ∀ a b c, part a → part b → part c → le a b = true → le b c = true → le a c = true

theorem OrderedOn.of_key {α β : Type} [Quantity α] [LinearOrder β] {part : α → Prop} (key : α → β)
    (lawful : ∀ a b, part a → part b → compare? a b = some (compare (key a) (key b))) :
    OrderedOn part := by
  have le_iff : ∀ a b, part a → part b → (le a b = true ↔ key a ≤ key b) := by
    intro a b ha hb
    rw [le, lawful a b ha hb, ← compare_le_iff_le]
    cases compare (key a) (key b) <;> decide
  have lt_iff : ∀ a b, part a → part b → (lt a b = true ↔ key a < key b) := by
    intro a b ha hb
    rw [lt, lawful a b ha hb, ← compare_lt_iff_lt]
    cases compare (key a) (key b) <;> decide
  constructor
  · intro a b ha hb
    rw [lt_iff a b ha hb, le_iff b a hb ha, not_le]
  · intro a b c ha hb hc below above
    rw [le_iff a b ha hb] at below
    rw [le_iff b c hb hc] at above
    rw [le_iff a c ha hc]
    exact below.trans above

theorem orderedOn_all {α : Type} [Quantity α] [Ordered α] : OrderedOn fun _ : α => True :=
  ⟨fun a b _ _ => Ordered.lt_iff a b, fun a b c _ _ _ => Ordered.le_trans a b c⟩

/-- All floating point numbers but the NaN compare. -/
theorem orderedOn_numbers : OrderedOn fun x : Numeral.Binary64 => x ≠ .nan := by
  refine .of_key (fun x => x.position?.getD 0) fun x y number number' => ?_
  cases x <;> cases y <;> first | contradiction | rfl

theorem Ordered.of_key {α β : Type} [Quantity α] [LinearOrder β] (key : α → β)
    (lawful : ∀ a b : α, compare? a b = some (compare (key a) (key b))) : Ordered α := by
  have ordered : OrderedOn fun _ : α => True := .of_key key fun a b _ _ => lawful a b
  exact ⟨fun a b => ordered.lt_iff a b trivial trivial,
    fun a b c => ordered.le_trans a b c trivial trivial trivial⟩

instance (w : Numeral.Width) : Ordered (Numeral.Sized w) :=
  .of_key Numeral.Sized.val fun _ _ => rfl

instance : Ordered String :=
  .of_key id fun a b => congrArg some (LinearOrder.compare_eq_compareOfLessAndEq a b).symm

variable {α : Type} [Quantity α] [Ordered α]

theorem lt_false_iff (a b : α) : lt a b = false ↔ le b a = true := by
  rw [← Bool.not_eq_true, Ordered.lt_iff, not_not]

omit [Ordered α] in
theorem le_of_lt {a b : α} (below : lt a b = true) : le a b = true := by
  have compared : compare? a b = some .lt := by simpa [lt] using below
  simp [le, compared]

theorem le_refl (a : α) : le a a = true := by
  by_contra irreflexive
  exact irreflexive (le_of_lt ((Ordered.lt_iff ..).mpr irreflexive))

end Quantity

/-! ### What a scale lists -/

namespace Bounds

variable {α : Type} [Quantity α] {b : Bounds α}

theorem insertThreshold_perm (t : Threshold α) (sorted : List (Threshold α)) :
    (insertThreshold t sorted).Perm (t :: sorted) := by
  induction sorted with
  | nil => exact List.Perm.refl _
  | cons u rest ih =>
    rw [insertThreshold]
    split
    · exact List.Perm.refl _
    · exact (ih.cons u).trans (List.Perm.swap t u rest)

theorem foldl_insertThreshold_perm (added sorted : List (Threshold α)) :
    (added.foldl (fun sorted t => insertThreshold t sorted) sorted).Perm (added ++ sorted) := by
  induction added generalizing sorted with
  | nil => exact List.Perm.refl _
  | cons t rest ih =>
    exact (ih _).trans (((insertThreshold_perm t sorted).append_left rest).trans List.perm_middle)

theorem scale_perm (b : Bounds α) : b.scale.thresholds.Perm b.thresholds := by
  have all := foldl_insertThreshold_perm b.thresholds []
  rwa [List.append_nil] at all

theorem mem_scale {t : Threshold α} :
    t ∈ b.scale.thresholds ↔ b.get? t.kind = some t.value := by
  rw [b.scale_perm.mem_iff, thresholds, List.mem_filterMap]
  constructor
  · rintro ⟨kind, -, listed⟩
    obtain ⟨x, present, rfl⟩ := Option.map_eq_some_iff.mp listed
    exact present
  · intro present
    refine ⟨t.kind, ?_, by rw [present]; rfl⟩
    cases t.kind <;> decide

/-- A scale has the boundaries that were set, each under its kind. -/
theorem get?_scale (b : Bounds α) (kind : Kind) :
    b.scale.get? kind = (b.get? kind).map (Threshold.mk kind) := by
  rw [Scale.get?]
  cases found : b.scale.thresholds.find? (·.kind == kind) with
  | some t =>
    have same : t.kind = kind := by simpa using List.find?_some found
    rw [← same, mem_scale.mp (List.mem_of_find?_eq_some found)]
    rfl
  | none =>
    cases present : b.get? kind with
    | none => rfl
    | some x =>
      have listed : ⟨kind, x⟩ ∈ b.scale.thresholds := mem_scale.mpr present
      exact absurd (BEq.rfl (a := kind)) (List.find?_eq_none.mp found _ listed)

def reaches (b : Bounds α) (kind : Kind) (value : α) : Bool :=
  (b.get? kind).any (Quantity.le · value)

theorem reaches_iff {kind : Kind} {value : α} :
    b.reaches kind value = true ↔ ∃ x, b.get? kind = some x ∧ Quantity.le x value = true := by
  rw [reaches, Option.any_eq_true]

theorem reaches_scale (b : Bounds α) (kind : Kind) (value : α) :
    b.scale.reaches kind value = b.reaches kind value := by
  rw [Scale.reaches, get?_scale, Option.any_map]
  rfl

/-! ### Scales of ascending bounds -/

/-- The present boundaries ascend by severity; neighbours may be equal. -/
def Ascending (b : Bounds α) : Prop :=
  (Kind.all.filterMap b.get?).Pairwise fun x y => Quantity.le x y = true

instance (b : Bounds α) : Decidable b.Ascending :=
  inferInstanceAs (Decidable (List.Pairwise _ _))

variable [Quantity.Ordered α]

theorem insertThreshold_last {t : Threshold α} {sorted : List (Threshold α)}
    (lowest : ∀ u ∈ sorted, Quantity.le t.value u.value = true) :
    insertThreshold t sorted = sorted ++ [t] := by
  induction sorted with
  | nil => rfl
  | cons u rest ih =>
    obtain ⟨below, later⟩ := List.forall_mem_cons.mp lowest
    rw [insertThreshold, List.all_cons, (Quantity.lt_false_iff ..).mpr below, Bool.false_and,
      if_neg Bool.false_ne_true, ih later, List.cons_append]

theorem foldl_insertThreshold {sorted added : List (Threshold α)}
    (descending : (sorted ++ added).Pairwise fun t u => Quantity.le u.value t.value = true) :
    added.foldl (fun sorted t => insertThreshold t sorted) sorted = sorted ++ added := by
  -- Each threshold is lower than those before it, so that the insertion never moves past one.
  induction added generalizing sorted with
  | nil => rw [List.foldl_nil, List.append_nil]
  | cons t rest ih =>
    have lowest : ∀ u ∈ sorted, Quantity.le t.value u.value = true := by
      intro u member
      exact (List.pairwise_append.mp descending).2.2 u member t List.mem_cons_self
    rw [List.append_cons] at descending
    rw [List.foldl_cons, insertThreshold_last lowest, ih descending, ← List.append_cons]

/-- Ascending bounds are listed from the maximum down. -/
theorem scale_of_ascending (ascending : b.Ascending) : b.scale.thresholds = b.thresholds := by
  have values : b.thresholds.map Threshold.value = (Kind.all.filterMap b.get?).reverse := by
    rw [thresholds, List.map_filterMap, ← List.filterMap_reverse]
    simp only [Option.map_map, Function.comp_def, Option.map_id_fun']
    rfl
  have descending : b.thresholds.Pairwise fun t u => Quantity.le u.value t.value = true :=
    List.pairwise_map.mp (values ▸ List.pairwise_reverse.mpr ascending)
  rw [← b.thresholds.nil_append] at descending
  exact foldl_insertThreshold descending

/-- The first threshold that a value reaches is that of the most severe kind that it reaches. -/
theorem reached?_scale (ascending : b.Ascending) (value : α) :
    b.scale.reached? value =
      (Kind.all.reverse.find? (b.reaches · value)).bind fun kind =>
        (b.get? kind).map (Threshold.mk kind) := by
  rw [Scale.reached?, scale_of_ascending ascending, thresholds, List.find?_filterMap]
  simp only [Option.any_map]
  rfl

end Bounds

end HealthWatch
