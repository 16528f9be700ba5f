import HealthWatch.Proofs.Scale.Agreement

/-!
# Explanations

The status of a rated value, its message and the measurement with it come from look-ups of their
own. `verdicts_explained` says that they never disagree, in whatever order a scale lists its
thresholds and however often: a value that is warned about has reached the threshold that the
message names, the threshold stands for the status, and the measurement shows it.
-/

namespace HealthWatch

open Threshold (Kind)

variable {α : Type} [Quantity α] {s : Scale α} {t : Threshold α} {kind : Kind} {label : String}
  {value : α}

/-- A measurement shows the thresholds that the scale has. -/
theorem Measurement.threshold?_take (value : α) (s : Scale α) (kind : Kind) :
    (take value s).threshold? kind = (s.get? kind).map fun t => Quantity.render t.value := by
  rw [threshold?, take, List.find?_map, Option.map_map]
  rfl

/-- The value reaches the threshold, which is why the verdict has its status, and so says the
message. -/
structure Threshold.Explains (t : Threshold α) (label : String) (value : α) (v : Verdict) :
    Prop where
  reached : Quantity.le t.value value = true
  status : t.kind.reported = v.status
  message : v.message? = some (label ++ " is " ++ Quantity.render value ++ ", reached " ++
    t.kind.name ++ " threshold " ++ Quantity.render t.value)

namespace Scale

/-- What a verdict says of a value that was rated against the scale. -/
structure Explained (s : Scale α) (label : String) (value : α) (v : Verdict) : Prop where
  /-- The measurement shows the value and all thresholds, in the order of the scale. -/
  shown : ∃ m, v.data = some m ∧ m.value = Quantity.render value ∧
    m.thresholds = s.thresholds.map (fun t => (t.kind, Quantity.render t.value)) ∧
    ∀ kind, m.threshold? kind = (s.get? kind).map fun t => Quantity.render t.value
  raised : v.status = .warning ∨ v.status = .critical →
    ∃ t ∈ s.thresholds, t.Explains label value v
  calm : v.status = .ok → v.message? = some (label ++ " is " ++ Quantity.render value)

omit [Quantity α] in
theorem get?_eq_some (present : s.get? kind = some t) : t ∈ s.thresholds ∧ t.kind = kind :=
  ⟨List.mem_of_find?_eq_some present, by simpa using List.find?_some present⟩

theorem reached?_eq_some (found : s.reached? value = some t) :
    t ∈ s.thresholds ∧ Quantity.le t.value value = true :=
  ⟨List.mem_of_find?_eq_some found,
    by simpa [Threshold.reachedBy] using List.find?_some found⟩

theorem shown_of_take {v : Verdict} (taken : v.data = some (.take value s)) :
    ∃ m, v.data = some m ∧ m.value = Quantity.render value ∧
      m.thresholds = s.thresholds.map (fun t => (t.kind, Quantity.render t.value)) ∧
      ∀ kind, m.threshold? kind = (s.get? kind).map fun t => Quantity.render t.value :=
  ⟨.take value s, taken, rfl, rfl, Measurement.threshold?_take value s⟩

/-! ### By the first threshold reached -/

theorem assess_of_reached (found : s.reached? value = some t) (above : t.kind ≠ .min)
    (label : String) : t.Explains label value (s.assess label value) := by
  refine ⟨(reached?_eq_some found).2, ?_, ?_⟩
  · simp [status_assess, found]
  · simp only [assess, found, if_neg above]
    rfl

theorem assess_explained (s : Scale α) (label : String) (value : α) :
    s.Explained label value (s.assess label value) := by
  refine ⟨shown_of_take rfl, fun raised => ?_, fun calm => ?_⟩
  · rw [status_assess] at raised
    cases found : s.reached? value with
    | none => simp [found] at raised
    | some t =>
      have above : t.kind ≠ .min := by
        intro least
        simp [found, least, Kind.reported, Kind.nominal] at raised
      exact ⟨t, (reached?_eq_some found).1, assess_of_reached found above label⟩
  · rw [status_assess] at calm
    cases found : s.reached? value with
    | none => simp [found] at calm
    | some t =>
      have least : t.kind = .min := by
        cases kind : t.kind <;> simp_all [Kind.reported, Kind.nominal]
      simp only [assess, found, if_pos least]
      rfl

/-! ### By the critical and the warning threshold -/

def decisive (s : Scale α) (value : α) : Kind :=
  if s.classify value = .critical then .critical else .warning

theorem get?_of_classify (raised : s.classify value ≠ .ok) :
    ∃ t, s.get? (s.decisive value) = some t ∧ Quantity.le t.value value = true ∧
      (s.decisive value).reported = s.classify value := by
  by_cases critical : s.reaches .critical value = true
  · have status : s.classify value = .critical := if_pos critical
    rw [decisive, status]
    obtain ⟨t, present, reached⟩ := (Option.any_eq_true ..).mp critical
    exact ⟨t, present, reached, rfl⟩
  by_cases warning : s.reaches .warning value = true
  · have status : s.classify value = .warning := by rw [classify, if_neg critical, if_pos warning]
    rw [decisive, status]
    obtain ⟨t, present, reached⟩ := (Option.any_eq_true ..).mp warning
    exact ⟨t, present, reached, rfl⟩
  · exact absurd (by rw [classify, if_neg critical, if_neg warning]) raised

theorem grade_of_raised (raised : (s.grade label value).status ≠ .ok) :
    ∃ t, s.get? t.kind = some t ∧ t.Explains label value (s.grade label value) := by
  rw [status_grade] at raised
  obtain ⟨t, present, reached, status⟩ := get?_of_classify raised
  have kind := (get?_eq_some present).2
  refine ⟨t, kind ▸ present, reached, by rw [kind, status, status_grade], ?_⟩
  rw [decisive] at present kind
  simp only [grade, if_neg raised, present, kind]
  rfl

theorem grade_explained (s : Scale α) (label : String) (value : α) :
    s.Explained label value (s.grade label value) := by
  refine ⟨shown_of_take rfl, fun raised => ?_, fun calm => ?_⟩
  · have above : (s.grade label value).status ≠ .ok := by
      rcases raised with status | status <;> simp [status]
    obtain ⟨t, present, explains⟩ := grade_of_raised above
    exact ⟨t, (get?_eq_some present).1, explains⟩
  · rw [status_grade] at calm
    simp only [grade, if_pos calm]
    rfl

/-- Both ways to rate a value explain themselves, whatever the scale. By the critical and the
warning threshold alone, a status above `ok` always has a threshold to name, which is the one that
the measurement shows for its kind. -/
theorem verdicts_explained (s : Scale α) (label : String) (value : α) :
    s.Explained label value (s.assess label value) ∧
    s.Explained label value (s.grade label value) ∧
    ((s.grade label value).status ≠ .ok → ∃ t, s.get? t.kind = some t ∧
      t.Explains label value (s.grade label value) ∧
      ∃ m, (s.grade label value).data = some m ∧
        m.threshold? t.kind = some (Quantity.render t.value)) := by
  refine ⟨s.assess_explained label value, s.grade_explained label value, fun raised => ?_⟩
  obtain ⟨t, present, explains⟩ := grade_of_raised raised
  refine ⟨t, present, explains, .take value s, rfl, ?_⟩
  rw [Measurement.threshold?_take, present]
  rfl

open Numeral (Sized)

/-- A scale that lists its thresholds in no order, two of them of one kind. -/
def scattered : Scale (Sized .u32) :=
  ⟨[⟨.warning, ⟨2, by decide⟩⟩, ⟨.critical, ⟨9, by decide⟩⟩, ⟨.warning, ⟨5, by decide⟩⟩,
    ⟨.min, ⟨1, by decide⟩⟩]⟩

/-- One way goes by the first threshold and the other by the critical one. -/
theorem verdicts_explained_scattered :
    (scattered.assess "load" ⟨9, by decide⟩).status = .warning ∧
    (∃ t ∈ scattered.thresholds,
      t.Explains "load" ⟨9, by decide⟩ (scattered.assess "load" ⟨9, by decide⟩)) ∧
    (scattered.grade "load" ⟨9, by decide⟩).status = .critical ∧
    ∃ t, scattered.get? t.kind = some t ∧
      t.Explains "load" ⟨9, by decide⟩ (scattered.grade "load" ⟨9, by decide⟩) := by
  have warned : (scattered.assess "load" ⟨9, by decide⟩).status = .warning := by decide +kernel
  have failed : (scattered.grade "load" ⟨9, by decide⟩).status = .critical := by decide +kernel
  obtain ⟨assessed, -, graded⟩ := verdicts_explained scattered "load" ⟨9, by decide⟩
  obtain ⟨t, present, explains, -⟩ := graded (by simp [failed])
  exact ⟨warned, assessed.raised (.inl warned), failed, t, present, explains⟩

end Scale

end HealthWatch
