import HealthWatch.Proofs.Scale.Agreement

/-!
# Rising values

A higher value is never rated less severe. By the critical and the warning threshold alone that
holds on every scale, in whatever order it lists its thresholds and however often. By the first
threshold reached it holds on scales of ascending bounds from the lowest boundary on; what is below
that is unknown, which is more severe than a warning.
-/

namespace HealthWatch

open Threshold (Kind)

variable {α : Type} [Quantity α] [Quantity.Ordered α] {value higher : α}

theorem Threshold.reachedBy_mono (t : Threshold α) (rises : Quantity.le value higher = true)
    (reached : t.reachedBy value = true) : t.reachedBy higher = true :=
  Quantity.Ordered.le_trans _ _ _ reached rises

namespace Scale

theorem reaches_mono (s : Scale α) (kind : Kind) (rises : Quantity.le value higher = true)
    (reached : s.reaches kind value = true) : s.reaches kind higher = true := by
  obtain ⟨t, present, reached⟩ := (Option.any_eq_true ..).mp reached
  exact (Option.any_eq_true ..).mpr ⟨t, present, t.reachedBy_mono rises reached⟩

theorem classify_mono (s : Scale α) (rises : Quantity.le value higher = true) :
    s.classify value ≤ s.classify higher := by
  by_cases critical : s.reaches .critical value = true
  · have still := s.reaches_mono .critical rises critical
    rw [classify, classify, if_pos critical, if_pos still]
    exact Status.le_refl _
  by_cases warning : s.reaches .warning value = true
  · have still := s.reaches_mono .warning rises warning
    rw [classify, classify, if_neg critical, if_pos warning, if_pos still]
    split <;> decide
  · rw [classify, if_neg critical, if_neg warning]
    exact Status.ok_le _

end Scale

namespace Bounds

variable {b : Bounds α}

def Lowest (b : Bounds α) (low : α) : Prop :=
  (∃ kind, b.get? kind = some low) ∧ ∀ kind x, b.get? kind = some x → Quantity.le low x = true

theorem exists_lowest (ascending : b.Ascending) {kind : Kind} {x : α}
    (present : b.get? kind = some x) : ∃ low, b.Lowest low := by
  have listed : ∀ {kind x}, b.get? kind = some x → x ∈ Kind.all.filterMap b.get? := by
    intro kind x present
    exact List.mem_filterMap.mpr ⟨kind, by cases kind <;> decide, present⟩
  rw [Ascending] at ascending
  cases values : Kind.all.filterMap b.get? with
  | nil =>
    have member := listed present
    rw [values] at member
    cases member
  | cons low rest =>
    have first : low ∈ Kind.all.filterMap b.get? := values ▸ List.mem_cons_self
    obtain ⟨own, -, set⟩ := List.mem_filterMap.mp first
    refine ⟨low, ⟨own, set⟩, fun kind x present => ?_⟩
    rw [values] at ascending
    have member := listed present
    rw [values] at member
    rcases List.mem_cons.mp member with rfl | later
    · exact Quantity.le_refl x
    · exact (List.pairwise_cons.mp ascending).1 x later

theorem reaches_mono (b : Bounds α) (kind : Kind) (rises : Quantity.le value higher = true)
    (reached : b.reaches kind value = true) : b.reaches kind higher = true := by
  rw [← reaches_scale] at reached ⊢
  exact b.scale.reaches_mono kind rises reached

/-- From the lowest boundary on, some boundary is reached. -/
theorem exists_reaches (ascending : b.Ascending)
    (within : ∀ low, b.Lowest low → Quantity.le low value = true) {kind : Kind} {x : α}
    (present : b.get? kind = some x) : ∃ kind, b.reaches kind value = true := by
  obtain ⟨low, lowest⟩ := exists_lowest ascending present
  obtain ⟨own, set⟩ := lowest.1
  exact ⟨own, reaches_iff.mpr ⟨low, set, within low lowest⟩⟩

theorem status_assess_mono (ascending : b.Ascending) (rises : Quantity.le value higher = true)
    (within : ∀ low, b.Lowest low → Quantity.le low value = true) (label other : String) :
    (b.scale.assess label value).status ≤ (b.scale.assess other higher).status := by
  have still := fun kind => b.reaches_mono kind rises
  rw [status_assess_scale ascending, status_assess_scale ascending]
  by_cases max : b.reaches .max value = true
  · rw [if_pos max, if_pos (still .max max)]
    exact Status.le_refl _
  by_cases critical : b.reaches .critical value = true
  · rw [if_neg max, if_pos critical, if_pos (still .critical critical)]
    split <;> exact Status.le_refl _
  by_cases warning : b.reaches .warning value = true
  · rw [if_neg max, if_neg critical, if_pos warning, if_pos (still .warning warning)]
    split
    · decide
    · split <;> decide
  rw [if_neg max, if_neg critical, if_neg warning]
  by_cases min : b.reaches .min value = true
  · rw [if_pos min]
    exact Status.ok_le _
  · -- Nothing is reached, so that there are no bounds to reach.
    have unset : ∀ kind x, b.get? kind ≠ some x := by
      intro kind x present
      obtain ⟨reached, holds⟩ := exists_reaches ascending within present
      cases reached <;> contradiction
    have unreached : ∀ kind, ¬b.reaches kind higher = true := by
      intro kind reached
      obtain ⟨x, present, -⟩ := reaches_iff.mp reached
      exact unset kind x present
    rw [if_neg min, if_neg (unreached .max), if_neg (unreached .critical),
      if_neg (unreached .warning), if_neg (unreached .min)]
    exact Status.le_refl _

end Bounds

/-- Severity never falls as the value rises: on any scale by the critical and the warning threshold
alone, and on a scale of ascending bounds, from the lowest boundary on, by the first threshold
reached. -/
theorem severity_mono (rises : Quantity.le value higher = true) :
    (∀ s : Scale α, s.classify value ≤ s.classify higher) ∧
    ∀ b : Bounds α, b.Ascending → (∀ low, b.Lowest low → Quantity.le low value = true) →
      ∀ label, (b.scale.assess label value).status ≤ (b.scale.assess label higher).status := by
  refine ⟨fun s => s.classify_mono rises, fun b ascending within label => ?_⟩
  exact Bounds.status_assess_mono ascending rises within label label

open Numeral (Sized)

/-- A critical threshold below the warning threshold, and another one that is never looked at. -/
def inverted : Scale (Sized .u8) :=
  ⟨[⟨.critical, ⟨3, by decide⟩⟩, ⟨.warning, ⟨8, by decide⟩⟩, ⟨.critical, ⟨9, by decide⟩⟩]⟩

/-- No minimum, and a maximum that ties with the critical boundary. -/
def openBelow : Bounds (Sized .u8) :=
  ⟨none, some ⟨5, by decide⟩, some ⟨8, by decide⟩, some ⟨8, by decide⟩⟩

theorem severity_mono_u8 :
    Quantity.le (⟨6, by decide⟩ : Sized .u8) ⟨8, by decide⟩ = true ∧
    inverted.classify ⟨6, by decide⟩ ≤ inverted.classify ⟨8, by decide⟩ ∧
    openBelow.Ascending ∧ (openBelow.scale.assess "load" ⟨6, by decide⟩).status = .warning ∧
    (openBelow.scale.assess "load" ⟨6, by decide⟩).status ≤
      (openBelow.scale.assess "load" ⟨8, by decide⟩).status := by
  have rises : Quantity.le (⟨6, by decide⟩ : Sized .u8) ⟨8, by decide⟩ = true := by decide
  have ascending : openBelow.Ascending := by decide
  obtain ⟨classified, assessed⟩ := severity_mono rises
  have within : ∀ low, openBelow.Lowest low → Quantity.le low ⟨6, by decide⟩ = true := by
    rintro low ⟨-, least⟩
    have five := least .warning ⟨5, by decide⟩ rfl
    exact Quantity.Ordered.le_trans _ _ _ five (by decide)
  exact ⟨rises, classified inverted, ascending, by decide +kernel,
    assessed openBelow ascending within "load"⟩

end HealthWatch
