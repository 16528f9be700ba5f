import HealthWatch.Overlap

/-!
# Overlapping invocations of a skipping check

`Recorded` says what the steps that the invocations of a skipping check have taken so far tell of
the cell and of each invocation, and every step keeps it.
-/

namespace HealthWatch

namespace Overlap

namespace Step

def stored? : Step → Option (Nat × Verdict)
  | .store k v => some (k, v)
  | _ => none

def finished? : Step → Option Nat
  | .finish k _ => some k
  | _ => none

end Step

variable {skips k : Nat} {o o' : Overlap} {h h' : List Step}

theorem steps?_append :
    o.steps? skips (h ++ h') = (o.steps? skips h).bind fun o => o.steps? skips h' := by
  induction h generalizing o with
  | nil => rfl
  | cons step rest ih =>
    simp only [List.cons_append, steps?]
    cases o.step? skips step with
    | none => rfl
    | some next => exact ih

inductive Move (k : Nat) (seen : Option Verdict) : Stage → Step → Stage → Prop where
  | run (nothing : seen = none) : Move k seen .numbered (.run k) .running
  | replay (v : Verdict) (found : seen = some v) :
    Move k seen .numbered (.replay k v) (.repeating v)
  | finish (v : Verdict) : Move k seen .running (.finish k v) (.ran v)
  | store (v : Verdict) : Move k seen (.ran v) (.store k v) (.stored v)
  | repeated (v : Verdict) : Move k seen (.repeating v) (.answer k v) (.answered v)
  | answer (v : Verdict) : Move k seen (.stored v) (.answer k v) (.answered v)

theorem move_of_next {seen : Option Verdict} {stage stage' : Stage} {step : Step}
    (caller : step.caller? = some k) (next : stage.next? seen step = some stage') :
    Move k seen stage step stage' := by
  rw [Stage.next?.eq_def] at next
  split at next
  · split at next
    · rename_i nothing
      obtain rfl := Option.some.inj caller
      exact Option.some.inj next ▸ .run nothing
    · cases next
  · split at next
    · rename_i found
      obtain rfl := Option.some.inj caller
      exact Option.some.inj next ▸ .replay _ found
    · cases next
  · obtain rfl := Option.some.inj caller
    exact Option.some.inj next ▸ .finish _
  · split at next
    · rename_i same
      obtain rfl := Option.some.inj caller
      exact same ▸ Option.some.inj next ▸ .store _
    · cases next
  · split at next
    · rename_i same
      obtain rfl := Option.some.inj caller
      exact same ▸ Option.some.inj next ▸ .repeated _
    · cases next
  · split at next
    · rename_i same
      obtain rfl := Option.some.inj caller
      exact same ▸ Option.some.inj next ▸ .answer _
    · cases next
  · cases next

theorem next_of_move {seen : Option Verdict} {stage stage' : Stage} {step : Step}
    (move : Move k seen stage step stage') :
    step.caller? = some k ∧ stage.next? seen step = some stage' := by
  cases move with
  | run nothing => exact ⟨rfl, if_pos nothing⟩
  | replay v found => exact ⟨rfl, if_pos found⟩
  | finish v => exact ⟨rfl, rfl⟩
  | store v => exact ⟨rfl, if_pos rfl⟩
  | repeated v => exact ⟨rfl, if_pos rfl⟩
  | answer v => exact ⟨rfl, if_pos rfl⟩

theorem step?_eq_some {step : Step} (caller : step.caller? = some k) :
    o.step? skips step = some o' ↔
      ∃ number stage stage', o.calls[k]? = some ⟨number, stage⟩ ∧
        Move k (o.view? skips ⟨number, stage⟩) stage step stage' ∧
        o' = ⟨step.leave o.cell, o.calls.set k ⟨number, stage'⟩⟩ := by
  simp only [step?, caller]
  constructor
  · intro taken
    obtain ⟨⟨number, stage⟩, present, taken⟩ := Option.bind_eq_some_iff.mp taken
    obtain ⟨stage', next, same⟩ := Option.map_eq_some_iff.mp taken
    exact ⟨number, stage, stage', present, move_of_next caller next, same.symm⟩
  · rintro ⟨number, stage, stage', present, move, rfl⟩
    simp [present, (next_of_move move).2]

/-! ### What the steps tell -/

def own (k : Nat) (h : List Step) : List Step :=
  h.filter fun step => step.caller? == some k

def stores (h : List Step) : List (Nat × Verdict) :=
  h.filterMap Step.stored?

theorem own_snoc_self {step : Step} (caller : step.caller? = some k) :
    own k (h ++ [step]) = own k h ++ [step] := by
  simp [own, List.filter_append, caller]

theorem own_snoc_other {step : Step} (other : step.caller? ≠ some k) :
    own k (h ++ [step]) = own k h := by
  simp [own, List.filter_append, other]

/-- The cell keeps what was stored last. -/
theorem stored_leave {c : Cell} (kept : c.stored = (stores h).getLast?.map (·.2)) (step : Step) :
    (step.leave c).stored = (stores (h ++ [step])).getLast?.map (·.2) := by
  cases step with
  | store k v => simp [stores, Step.stored?, Step.leave]
  | _ => simpa [stores, Step.stored?, Step.leave] using kept

/-- The steps that have taken an invocation to a stage. -/
inductive Trail (k : Nat) : Stage → List Step → Prop where
  | numbered : Trail k .numbered []
  | repeating (v : Verdict) : Trail k (.repeating v) [.replay k v]
  | running : Trail k .running [.run k]
  | ran (v : Verdict) : Trail k (.ran v) [.run k, .finish k v]
  | stored (v : Verdict) : Trail k (.stored v) [.run k, .finish k v, .store k v]
  | repeated (v : Verdict) : Trail k (.answered v) [.replay k v, .answer k v]
  | answered (v : Verdict) :
    Trail k (.answered v) [.run k, .finish k v, .store k v, .answer k v]

theorem Trail.next {stage stage' : Stage} {step : Step} {steps : List Step}
    {seen : Option Verdict} (trail : Trail k stage steps) (move : Move k seen stage step stage') :
    Trail k stage' (steps ++ [step]) := by
  cases move with
  | run nothing => cases trail; exact .running
  | replay v found => cases trail; exact .repeating v
  | finish v => cases trail; exact .ran v
  | store v => cases trail; exact .stored v
  | repeated v => cases trail; exact .repeated v
  | answer v => cases trail; exact .answered v

structure Recorded (h : List Step) (o : Overlap) : Prop where
  counted : o.cell.turns = o.calls.length
  size : o.calls.length = h.count .call
  kept : o.cell.stored = (stores h).getLast?.map (·.2)
  numbered : ∀ k c, o.calls[k]? = some c → c.number = k + 1
  trail : ∀ k c, o.calls[k]? = some c → Trail k c.stage (own k h)
  absent : ∀ k, o.calls.length ≤ k → own k h = []

theorem recorded_fresh : Recorded [] fresh := by
  refine ⟨rfl, rfl, rfl, ?_, ?_, fun _ _ => rfl⟩
  · intro k c present
    cases present
  · intro k c present
    cases present

namespace Recorded

theorem call (recorded : Recorded h o) : Recorded (h ++ [.call]) o.call := by
  have same : ∀ k, own k (h ++ [.call]) = own k h := by
    intro k
    exact own_snoc_other (by simp [Step.caller?])
  have silent : stores (h ++ [.call]) = stores h := by simp [stores, Step.stored?]
  have size : o.call.calls.length = o.calls.length + 1 := by simp [Overlap.call]
  have last : ∀ k c, o.call.calls[k]? = some c →
      o.calls[k]? = some c ∨ (k = o.calls.length ∧ c = ⟨k + 1, .numbered⟩) := by
    intro k c present
    rcases Nat.lt_or_ge k o.calls.length with before | beyond
    · left
      rwa [Overlap.call, List.getElem?_append_left before] at present
    · right
      have inside := (List.getElem?_eq_some_iff.mp present).1
      obtain rfl : k = o.calls.length := by omega
      simp [Overlap.call, Cell.turn, recorded.counted] at present
      exact ⟨rfl, present.symm⟩
  refine ⟨?_, ?_, ?_, ?_, ?_, ?_⟩
  · rw [size, ← recorded.counted]
    rfl
  · rw [size, recorded.size, List.count_append, List.count_singleton_self]
  · rw [silent]
    exact recorded.kept
  · intro k c present
    rcases last k c present with old | ⟨-, rfl⟩
    · exact recorded.numbered k c old
    · rfl
  · intro k c present
    rw [same]
    rcases last k c present with old | ⟨rfl, rfl⟩
    · exact recorded.trail k c old
    · rw [recorded.absent _ (Nat.le_refl _)]
      exact .numbered
  · intro k beyond
    rw [same]
    exact recorded.absent k (by omega)

theorem move (recorded : Recorded h o) {step : Step} {number : Nat} {stage stage' : Stage}
    {seen : Option Verdict} (present : o.calls[k]? = some ⟨number, stage⟩)
    (caller : step.caller? = some k) (move : Move k seen stage step stage') :
    Recorded (h ++ [step]) ⟨step.leave o.cell, o.calls.set k ⟨number, stage'⟩⟩ := by
  have inside := (List.getElem?_eq_some_iff.mp present).1
  have other : ∀ k', k' ≠ k → own k' (h ++ [step]) = own k' h := fun k' different =>
    own_snoc_other fun same => different (Option.some.inj (same.symm.trans caller))
  have found : ∀ k' c', (o.calls.set k ⟨number, stage'⟩)[k']? = some c' →
      (k' = k ∧ c' = ⟨number, stage'⟩) ∨ (k' ≠ k ∧ o.calls[k']? = some c') := by
    intro k' c' present'
    by_cases this : k' = k
    · subst this
      rw [List.getElem?_set_self inside] at present'
      exact .inl ⟨rfl, (Option.some.inj present').symm⟩
    · rw [List.getElem?_set_ne (Ne.symm this)] at present'
      exact .inr ⟨this, present'⟩
  have silent : [step].count .call = 0 := by
    cases step with
    | call => cases caller
    | _ => rfl
  refine ⟨?_, ?_, stored_leave recorded.kept step, ?_, ?_, ?_⟩
  · rw [List.length_set, ← recorded.counted]
    cases step <;> rfl
  · rw [List.length_set, recorded.size, List.count_append, silent, Nat.add_zero]
  · intro k' c' present'
    rcases found k' c' present' with ⟨rfl, rfl⟩ | ⟨-, old⟩
    · exact recorded.numbered k' ⟨number, stage⟩ present
    · exact recorded.numbered k' c' old
  · intro k' c' present'
    rcases found k' c' present' with ⟨rfl, rfl⟩ | ⟨different, old⟩
    · rw [own_snoc_self caller]
      exact (recorded.trail k' _ present).next move
    · rw [other k' different]
      exact recorded.trail k' c' old
  · intro k' beyond
    rw [List.length_set] at beyond
    rw [other k' (by omega)]
    exact recorded.absent k' beyond

theorem step (recorded : Recorded h o) {step : Step} (taken : o.step? skips step = some o') :
    Recorded (h ++ [step]) o' := by
  cases caller : step.caller? with
  | none =>
    cases step with
    | call =>
      obtain rfl := Option.some.inj taken
      exact recorded.call
    | _ => cases caller
  | some k =>
    obtain ⟨number, stage, stage', present, move, rfl⟩ := (step?_eq_some caller).mp taken
    exact recorded.move present caller move

theorem steps (recorded : Recorded h o) (taken : o.steps? skips h' = some o') :
    Recorded (h ++ h') o' := by
  induction h' generalizing h o with
  | nil =>
    obtain rfl := Option.some.inj taken
    rwa [List.append_nil]
  | cons step rest ih =>
    obtain ⟨next, first, taken⟩ := Option.bind_eq_some_iff.mp taken
    have kept := ih (recorded.step first) taken
    rwa [List.append_assoc, List.singleton_append] at kept

end Recorded

/-- What holds of the state before a step of a history. -/
theorem before_step {step : Step} {before after : List Step}
    (taken : fresh.steps? skips (before ++ step :: after) = some o) :
    ∃ middle next, Recorded before middle ∧ middle.step? skips step = some next := by
  rw [steps?_append] at taken
  obtain ⟨middle, reached, taken⟩ := Option.bind_eq_some_iff.mp taken
  obtain ⟨next, stepped, -⟩ := Option.bind_eq_some_iff.mp taken
  have recorded := recorded_fresh.steps reached
  exact ⟨middle, next, recorded, stepped⟩

end Overlap

end HealthWatch
