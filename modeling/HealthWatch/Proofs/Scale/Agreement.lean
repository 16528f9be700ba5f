import HealthWatch.Proofs.Scale.Order

/-!
# Two ways to rate a value

Over ascending bounds the first threshold that a value reaches and the look-up of the critical and
the warning threshold give the same status, but for values below every boundary and values that
reach the maximum.
-/

namespace HealthWatch

open Threshold (Kind)

variable {α : Type} [Quantity α]

namespace Scale

theorem status_assess (s : Scale α) (label : String) (value : α) :
    (s.assess label value).status =
      ((s.reached? value).map fun t => t.kind.reported).getD .unknown := by
  rw [assess]
  cases s.reached? value with
  | none => rfl
  | some t => cases kind : t.kind <;> simp [kind, Verdict.withData, Verdict.ok, Verdict.new,
      Kind.reported, Kind.nominal]

theorem status_grade (s : Scale α) (label : String) (value : α) :
    (s.grade label value).status = s.classify value := rfl

end Scale

namespace Bounds

variable {b : Bounds α}

theorem status_grade_scale (b : Bounds α) (label : String) (value : α) :
    (b.scale.grade label value).status =
      if b.reaches .critical value then .critical
      else if b.reaches .warning value then .warning
      else .ok := by
  rw [Scale.status_grade, Scale.classify, reaches_scale, reaches_scale]

theorem status_assess_scale [Quantity.Ordered α] (ascending : b.Ascending) (label : String)
    (value : α) :
    (b.scale.assess label value).status =
      if b.reaches .max value then .critical
      else if b.reaches .critical value then .critical
      else if b.reaches .warning value then .warning
      else if b.reaches .min value then .ok
      else .unknown := by
  have reported : (b.scale.assess label value).status =
      ((Kind.all.reverse.find? (b.reaches · value)).map Kind.reported).getD .unknown := by
    rw [Scale.status_assess, reached?_scale ascending]
    cases found : Kind.all.reverse.find? (b.reaches · value) with
    | none => rfl
    | some kind =>
      have reached : b.reaches kind value = true := by simpa using List.find?_some found
      obtain ⟨x, present, -⟩ := reaches_iff.mp reached
      simp [present]
  rw [reported, show Kind.all.reverse = [.max, .critical, .warning, .min] from rfl]
  simp only [List.find?_cons, List.find?_nil]
  cases b.reaches .max value <;> cases b.reaches .critical value <;>
    cases b.reaches .warning value <;> cases b.reaches .min value <;> rfl

theorem below_iff [Quantity.Ordered α] (b : Bounds α) (value : α) :
    (∀ kind x, b.get? kind = some x → Quantity.lt value x = true) ↔
      b.reaches .max value = false ∧ b.reaches .critical value = false ∧
        b.reaches .warning value = false ∧ b.reaches .min value = false := by
  have unreached : (∀ kind x, b.get? kind = some x → Quantity.lt value x = true) ↔
      ∀ kind, b.reaches kind value = false := by
    simp only [← Bool.not_eq_true, reaches_iff, Quantity.Ordered.lt_iff, not_exists, not_and]
  rw [unreached]
  constructor
  · intro none
    exact ⟨none _, none _, none _, none _⟩
  · rintro ⟨max, critical, warning, min⟩ kind
    cases kind <;> assumption

/-- Below every boundary the value is unknown to one way of rating and in order to the other; from
the maximum on it is critical to the first. Everywhere else both give the same status. -/
theorem assess_agrees_grade [Quantity.Ordered α] (ascending : b.Ascending)
    (label other : String) (value : α) :
    ((b.scale.assess label value).status = .unknown ↔
      ∀ kind x, b.get? kind = some x → Quantity.lt value x = true) ∧
    ((b.scale.assess label value).status = .unknown →
      (b.scale.grade other value).status = .ok) ∧
    (∀ x, b.max = some x → Quantity.le x value = true →
      (b.scale.assess label value).status = .critical) ∧
    ((∃ kind x, b.get? kind = some x ∧ Quantity.le x value = true) →
      (∀ x, b.max = some x → Quantity.lt value x = true) →
      (b.scale.assess label value).status = (b.scale.grade other value).status) := by
  have assessed := status_assess_scale ascending label value
  have graded := b.status_grade_scale other value
  have unknown : (b.scale.assess label value).status = .unknown ↔
      ∀ kind x, b.get? kind = some x → Quantity.lt value x = true := by
    rw [assessed, below_iff]
    cases b.reaches .max value <;> cases b.reaches .critical value <;>
      cases b.reaches .warning value <;> cases b.reaches .min value <;> decide
  refine ⟨unknown, ?_, ?_, ?_⟩
  · intro lost
    obtain ⟨-, critical, warning, -⟩ := (b.below_iff value).mp (unknown.mp lost)
    rw [graded, critical, warning]
    rfl
  · intro x present reached
    have beyond : b.reaches .max value = true := reaches_iff.mpr ⟨x, present, reached⟩
    rw [assessed, if_pos beyond]
  · rintro ⟨kind, x, present, reached⟩ within
    have inside : ¬b.reaches .max value = true := by
      intro beyond
      obtain ⟨y, top, above⟩ := reaches_iff.mp beyond
      exact (Quantity.Ordered.lt_iff ..).mp (within y top) above
    rw [assessed, graded, if_neg inside]
    by_cases critical : b.reaches .critical value = true
    · rw [if_pos critical, if_pos critical]
    by_cases warning : b.reaches .warning value = true
    · rw [if_neg critical, if_neg critical, if_pos warning, if_pos warning]
    have least : b.reaches .min value = true := by
      have any : b.reaches kind value = true := reaches_iff.mpr ⟨x, present, reached⟩
      cases kind with
      | min => exact any
      | warning => exact absurd any warning
      | critical => exact absurd any critical
      | max => exact absurd any inside
    rw [if_neg critical, if_neg critical, if_neg warning, if_neg warning, if_pos least]

/-- Texts whose warning and critical boundaries tie. -/
def tied : Bounds String := ⟨some "a", some "m", some "m", some "x"⟩

theorem assess_agrees_grade_tied :
    tied.Ascending ∧
    (¬∀ kind x, tied.get? kind = some x → Quantity.lt "m" x = true) ∧
    (tied.scale.assess "grade" "m").status = (tied.scale.grade "mark" "m").status ∧
    (tied.scale.assess "grade" "x").status = .critical ∧
    (tied.scale.assess "grade" "A").status = .unknown ∧
    (tied.scale.grade "mark" "A").status = .ok := by
  have ascending : tied.Ascending := by decide +kernel
  obtain ⟨-, -, -, agree⟩ := assess_agrees_grade ascending "grade" "mark" "m"
  obtain ⟨-, -, beyond, -⟩ := assess_agrees_grade ascending "grade" "mark" "x"
  obtain ⟨unknown, graded, -, -⟩ := assess_agrees_grade ascending "grade" "mark" "A"
  have below : ∀ kind x, tied.get? kind = some x → Quantity.lt "A" x = true := by
    intro kind x present
    cases kind <;> cases present <;> decide +kernel
  have reached : Quantity.le "m" "m" = true := by decide +kernel
  have within : Quantity.lt "m" "x" = true := by decide +kernel
  have top : Quantity.le "x" "x" = true := by decide +kernel
  refine ⟨ascending, ?_, ?_, beyond "x" rfl top, unknown.mpr below, graded (unknown.mpr below)⟩
  · intro lost
    exact absurd (lost .critical "m" rfl) (by decide +kernel)
  · refine agree ⟨.critical, "m", rfl, reached⟩ fun x present => ?_
    obtain rfl := Option.some.inj present
    exact within

end Bounds

end HealthWatch
