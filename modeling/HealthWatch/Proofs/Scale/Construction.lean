import HealthWatch.Proofs.Scale.Order
import Mathlib.Data.List.Induction

/-!
# Building scales

Bounds are set boundary by boundary, in any order and as often as one likes. `scale_ofCalls` says
what the scale of such bounds lists, for values any two of which compare: each kind that was set
with the value that was set last, the highest value first, and of equal values the most severe kind
first. A value then reaches the first threshold in this order among those that it is not below.
-/

namespace HealthWatch

open Threshold (Kind)

/-! ### Calls -/

namespace Bounds

variable {α : Type}

def ofCalls (calls : List (Kind × α)) : Bounds α :=
  calls.foldl (fun b call => b.set call.1 call.2) none

/-- The value that was set last for a kind. -/
def lastSet? (calls : List (Kind × α)) (kind : Kind) : Option α :=
  (calls.filter (·.1 == kind)).getLast?.map (·.2)

theorem get?_set (b : Bounds α) (kind other : Kind) (x : α) :
    (b.set kind x).get? other = if kind = other then some x else b.get? other := by
  cases kind <;> cases other <;> rfl

theorem ext_get? {b c : Bounds α} (same : ∀ kind, b.get? kind = c.get? kind) : b = c :=
  Bounds.ext (same .min) (same .warning) (same .critical) (same .max)

theorem get?_ofCalls (calls : List (Kind × α)) (kind : Kind) :
    (ofCalls calls).get? kind = lastSet? calls kind := by
  induction calls using List.reverseRecOn with
  | nil => cases kind <;> rfl
  | append_singleton calls call ih =>
    rw [ofCalls, List.foldl_concat, get?_set, lastSet?, List.filter_append]
    by_cases same : call.1 = kind
    · simp [same]
    · simpa [same, ofCalls, lastSet?] using ih

theorem mem_of_lastSet? {calls : List (Kind × α)} {kind : Kind} {x : α}
    (last : lastSet? calls kind = some x) : (kind, x) ∈ calls := by
  obtain ⟨⟨k, y⟩, found, rfl⟩ := Option.map_eq_some_iff.mp last
  obtain ⟨member, same⟩ := List.mem_filter.mp (List.mem_of_getLast? found)
  obtain rfl : k = kind := eq_of_beq same
  exact member

theorem filter_thresholds (b : Bounds α) (kind : Kind) :
    b.thresholds.filter (·.kind == kind) = ((b.get? kind).map (Threshold.mk kind)).toList := by
  obtain ⟨min, warning, critical, max⟩ := b
  cases kind <;> cases min <;> cases warning <;> cases critical <;> cases max <;> rfl

theorem filter_scale [Quantity α] (b : Bounds α) (kind : Kind) :
    b.scale.thresholds.filter (·.kind == kind) =
      ((b.get? kind).map (Threshold.mk kind)).toList := by
  have same := b.scale_perm.filter (·.kind == kind)
  rw [filter_thresholds] at same
  cases present : b.get? kind with
  | none => simpa [present] using same
  | some x => simpa [present] using same

end Bounds

/-! ### Ranked scales -/

def Threshold.Kind.rank : Kind → Nat
  | .min => 0
  | .warning => 1
  | .critical => 2
  | .max => 3

variable {α : Type} [Quantity α]

/-- The threshold is higher, or as high and of a more severe kind. -/
def Threshold.Precedes (t u : Threshold α) : Prop :=
  Quantity.le u.value t.value = true ∧
    (Quantity.le t.value u.value = true → u.kind.rank < t.kind.rank)

instance (t u : Threshold α) : Decidable (t.Precedes u) :=
  inferInstanceAs (Decidable (_ ∧ (_ → _)))

theorem Threshold.Precedes.asymm {t u : Threshold α} (first : t.Precedes u) : ¬u.Precedes t := by
  intro second
  have lower := first.2 second.1
  have higher := second.2 first.1
  omega

namespace Scale

def Ranked (s : Scale α) : Prop :=
  s.thresholds.Pairwise Threshold.Precedes

variable {s : Scale α} {value : α} {t : Threshold α}

/-- The first threshold reached splits the scale: none before it is reached. -/
theorem split_of_reached (found : s.reached? value = some t) :
    t.reachedBy value = true ∧ ∃ before after, s.thresholds = before ++ t :: after ∧
      ∀ x ∈ before, x.reachedBy value = false := by
  obtain ⟨reached, before, after, split, missed⟩ := List.find?_eq_some_iff_append.mp found
  exact ⟨reached, before, after, split, fun x member => by simpa using missed x member⟩

/-- In a ranked scale a value reaches the one threshold that precedes all others that it is not
below. -/
theorem Ranked.reached?_eq_some_iff (ranked : s.Ranked) :
    s.reached? value = some t ↔ t ∈ s.thresholds ∧ t.reachedBy value = true ∧
      ∀ u ∈ s.thresholds, u.reachedBy value = true → u = t ∨ t.Precedes u := by
  have first : ∀ {t}, s.reached? value = some t → t ∈ s.thresholds ∧ t.reachedBy value = true ∧
      ∀ u ∈ s.thresholds, u.reachedBy value = true → u = t ∨ t.Precedes u := by
    intro t found
    obtain ⟨reached, before, after, split, missed⟩ := split_of_reached found
    refine ⟨by simp [split], reached, fun u member under => ?_⟩
    rw [split, List.mem_append, List.mem_cons] at member
    rcases member with early | rfl | late
    · simp [missed u early] at under
    · exact .inl rfl
    · rw [Ranked, split] at ranked
      exact .inr ((List.pairwise_cons.mp (List.pairwise_append.mp ranked).2.1).1 u late)
  refine ⟨first, fun ⟨member, reached, above⟩ => ?_⟩
  cases found : s.reached? value with
  | none => exact absurd reached (List.find?_eq_none.mp found t member)
  | some u =>
    obtain ⟨member', reached', above'⟩ := first found
    rcases above u member' reached' with rfl | precedes
    · rfl
    rcases above' t member reached with rfl | preceded
    · rfl
    · exact absurd preceded precedes.asymm

end Scale

namespace Bounds

variable {part : α → Prop} {b : Bounds α} {t : Threshold α} {sorted added : List (Threshold α)}

/-- A threshold finds its place among others of more severe kinds. -/
theorem ranked_insertThreshold (ordered : Quantity.OrderedOn part)
    (inside : ∀ u ∈ t :: sorted, part u.value) (severer : ∀ u ∈ sorted, t.kind.rank < u.kind.rank)
    (ranked : (⟨sorted⟩ : Scale α).Ranked) : (⟨insertThreshold t sorted⟩ : Scale α).Ranked := by
  induction sorted with
  | nil => exact List.pairwise_singleton ..
  | cons u rest ih =>
    obtain ⟨own, first, others⟩ : part t.value ∧ part u.value ∧ ∀ x ∈ rest, part x.value := by
      simpa using inside
    obtain ⟨severe, severer⟩ := List.forall_mem_cons.mp severer
    obtain ⟨precedes, ranked⟩ := List.pairwise_cons.mp ranked
    rw [insertThreshold]
    split
    · rename_i all
      have lower : Quantity.lt u.value t.value = true := List.all_eq_true.mp all u List.mem_cons_self
      have under : Quantity.le u.value t.value = true := Quantity.le_of_lt lower
      have notAbove := (ordered.lt_iff _ _ first own).mp lower
      refine List.pairwise_cons.mpr ⟨fun x member => ?_, List.pairwise_cons.mpr ⟨precedes, ranked⟩⟩
      rcases List.mem_cons.mp member with rfl | member
      · exact ⟨under, fun above => absurd above notAbove⟩
      · have below := (precedes x member).1
        have third := others x member
        refine ⟨ordered.le_trans _ _ _ third first own below under, fun above => ?_⟩
        exact absurd (ordered.le_trans _ _ _ own third first above below) notAbove
    · rename_i some_
      -- Some threshold is not lower, and those of the rest are not above the first.
      obtain ⟨x, member, notLower⟩ := List.all_eq_false.mp (Bool.not_eq_true _ ▸ some_)
      have third : part x.value := inside x (List.mem_cons_of_mem t member)
      have aboveIt : Quantity.le t.value x.value = true := by
        by_contra above
        exact notLower ((ordered.lt_iff _ _ third own).mpr above)
      have under : Quantity.le t.value u.value = true := by
        rcases List.mem_cons.mp member with rfl | later
        · exact aboveIt
        · exact ordered.le_trans _ _ _ own third first aboveIt (precedes x later).1
      have later := ih (List.forall_mem_cons.mpr ⟨own, others⟩) severer ranked
      refine List.pairwise_cons.mpr ⟨fun x member => ?_, later⟩
      rcases List.mem_cons.mp ((insertThreshold_perm t rest).mem_iff.mp member) with rfl | member
      · exact ⟨under, fun _ => severe⟩
      · exact precedes x member

theorem ranked_foldl (ordered : Quantity.OrderedOn part)
    (inside : ∀ u ∈ added ++ sorted, part u.value)
    (severer : ∀ u ∈ sorted, ∀ t ∈ added, t.kind.rank < u.kind.rank)
    (descending : added.Pairwise fun t u => u.kind.rank < t.kind.rank)
    (ranked : (⟨sorted⟩ : Scale α).Ranked) :
    (⟨added.foldl (fun sorted t => insertThreshold t sorted) sorted⟩ : Scale α).Ranked := by
  induction added generalizing sorted with
  | nil => exact ranked
  | cons t rest ih =>
    obtain ⟨milder, descending⟩ := List.pairwise_cons.mp descending
    have perm := insertThreshold_perm t sorted
    have severe : ∀ u ∈ sorted, t.kind.rank < u.kind.rank :=
      fun u member => severer u member t List.mem_cons_self
    have own : ∀ u ∈ t :: sorted, part u.value := by
      intro u member
      refine inside u ?_
      simp only [List.mem_append, List.mem_cons] at member ⊢
      tauto
    refine ih ?_ ?_ descending (ranked_insertThreshold ordered own severe ranked)
    · intro u member
      rcases List.mem_append.mp member with later | early
      · exact inside u (List.mem_append_left _ (List.mem_cons_of_mem _ later))
      · exact own u (perm.mem_iff.mp early)
    · intro u member x later
      rcases List.mem_cons.mp (perm.mem_iff.mp member) with rfl | old
      · exact milder x later
      · exact severer u old x (List.mem_cons_of_mem _ later)

/-- Equal values keep the order max, critical, warning, min in which they are inserted. -/
theorem ranked_scale (ordered : Quantity.OrderedOn part)
    (inside : ∀ kind x, b.get? kind = some x → part x) : b.scale.Ranked := by
  have bare : (⟨[]⟩ : Scale α).Ranked := List.Pairwise.nil
  refine ranked_foldl ordered ?_ (by simp) ?_ bare
  · intro u member
    rw [List.append_nil] at member
    have listed : u ∈ b.scale.thresholds := b.scale_perm.mem_iff.mpr member
    exact inside u.kind u.value (mem_scale.mp listed)
  · have kinds : [Kind.max, .critical, .warning, .min].Pairwise fun k l => l.rank < k.rank := by
      decide
    refine List.pairwise_filterMap.mpr (kinds.imp fun {k l} milder t own u other => ?_)
    obtain ⟨x, -, rfl⟩ := Option.map_eq_some_iff.mp own
    obtain ⟨y, -, rfl⟩ := Option.map_eq_some_iff.mp other
    exact milder

/-- The scale that calls build, for values any two of which compare.

* It lists each kind that was set once, with the value that was set last, and no other kind.
* The highest value stands first, and of equal values the one of the most severe kind.
* It depends on nothing but the last value of each kind.
* A value reaches nothing if it is below all thresholds, and otherwise the highest of those that it
  is not below, among equal ones that of the most severe kind. -/
theorem scale_ofCalls (ordered : Quantity.OrderedOn part) {calls : List (Kind × α)}
    (inside : ∀ call ∈ calls, part call.2) :
    (∀ kind, (ofCalls calls).scale.thresholds.filter (·.kind == kind) =
      ((lastSet? calls kind).map (Threshold.mk kind)).toList) ∧
    (ofCalls calls).scale.Ranked ∧
    (∀ others, (∀ kind, lastSet? others kind = lastSet? calls kind) →
      (ofCalls others).scale = (ofCalls calls).scale) ∧
    ∀ value, part value →
      ((ofCalls calls).scale.reached? value = .none ↔
        ∀ t ∈ (ofCalls calls).scale.thresholds, Quantity.lt value t.value = true) ∧
      ∀ t, (ofCalls calls).scale.reached? value = some t ↔
        t ∈ (ofCalls calls).scale.thresholds ∧ Quantity.le t.value value = true ∧
          ∀ u ∈ (ofCalls calls).scale.thresholds, Quantity.le u.value value = true →
            u = t ∨ t.Precedes u := by
  have own : ∀ kind x, (ofCalls calls).get? kind = some x → part x := by
    intro kind x present
    rw [get?_ofCalls] at present
    exact inside (kind, x) (mem_of_lastSet? present)
  have ranked := ranked_scale ordered own
  refine ⟨fun kind => ?_, ranked, fun others same => ?_, fun value measured => ⟨?_, fun t => ?_⟩⟩
  · rw [filter_scale, get?_ofCalls]
  · have equal : ofCalls others = ofCalls calls :=
      ext_get? fun kind => by rw [get?_ofCalls, get?_ofCalls, same]
    rw [equal]
  · rw [Scale.reached?, List.find?_eq_none]
    refine forall₂_congr fun t member => ?_
    have listed := own t.kind t.value (mem_scale.mp member)
    exact (ordered.lt_iff value t.value measured listed).symm
  · exact ranked.reached?_eq_some_iff

open Numeral (Binary64)

/-- Boundaries upside down. The warning threshold is set twice, and last to -0. -/
def upsideDown : List (Kind × Binary64) :=
  [(.warning, .infinite false), (.max, .zero false), (.min, .finite false Binary64.one),
    (.warning, .zero true)]

/-- The two zeros tie, so that -0 reaches the maximum at 0. -/
theorem scale_ofCalls_upsideDown :
    (∀ call ∈ upsideDown, call.2 ≠ .nan) ∧
    (ofCalls upsideDown).scale.thresholds =
      [⟨.min, .finite false Binary64.one⟩, ⟨.max, .zero false⟩, ⟨.warning, .zero true⟩] ∧
    (ofCalls upsideDown).scale.reached? (.zero true) = some ⟨.max, .zero false⟩ ∧
    (ofCalls upsideDown).scale.reached? (.infinite true) = .none := by
  have numbers : ∀ call ∈ upsideDown, call.2 ≠ .nan := by decide
  obtain ⟨-, -, -, reached⟩ := scale_ofCalls Quantity.orderedOn_numbers numbers
  have listed : (ofCalls upsideDown).scale.thresholds =
      [⟨.min, .finite false Binary64.one⟩, ⟨.max, .zero false⟩, ⟨.warning, .zero true⟩] := by
    decide +kernel
  refine ⟨numbers, listed, ?_, ?_⟩
  · refine ((reached (.zero true) (by decide)).2 _).mpr ?_
    rw [listed]
    decide +kernel
  · refine (reached (.infinite true) (by decide)).1.mpr ?_
    rw [listed]
    decide +kernel

end Bounds

end HealthWatch
