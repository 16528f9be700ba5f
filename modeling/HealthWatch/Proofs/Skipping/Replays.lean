import HealthWatch.Proofs.Evaluation.Settling
import HealthWatch.Proofs.Skipping.Overlap
import Mathlib.Algebra.Order.Floor.Div
import Mathlib.Data.List.Nodup

/-!
# What overlapping invocations answer

`overlap_truthful` says of every interleaving of the invocations of a skipping check which of them
run the check inside, what the others repeat, and how often the check inside has run at least. The
last part ties the steps to the evaluations of a session.
-/

namespace HealthWatch.Overlap

variable {skips k number : Nat} {o o' : Overlap} {h before after : List Step} {v : Verdict}
  {stage : Stage}

/-! ### Looks -/

theorem Recorded.view?_eq (recorded : Recorded h o) {c : Invocation}
    (present : o.calls[k]? = some c) :
    o.view? skips c = if k % (skips + 1) = 0 then none else (stores h).getLast?.map (·.2) := by
  rw [view?, Cell.replay?, recorded.numbered k c present, Nat.add_sub_cancel, recorded.kept]

theorem step?_run (taken : o.step? skips (.run k) = some o') :
    ∃ number, o.calls[k]? = some ⟨number, .numbered⟩ ∧
      o.view? skips ⟨number, .numbered⟩ = none := by
  obtain ⟨number, _, _, present, move, -⟩ := (step?_eq_some rfl).mp taken
  cases move with
  | run nothing => exact ⟨number, present, nothing⟩

theorem step?_replay (taken : o.step? skips (.replay k v) = some o') :
    ∃ number, o.calls[k]? = some ⟨number, .numbered⟩ ∧
      o.view? skips ⟨number, .numbered⟩ = some v := by
  obtain ⟨number, _, _, present, move, -⟩ := (step?_eq_some rfl).mp taken
  cases move with
  | replay _ found => exact ⟨number, present, found⟩

theorem Recorded.view?_eq_none (recorded : Recorded h o) {c : Invocation}
    (present : o.calls[k]? = some c) :
    o.view? skips c = none ↔ k % (skips + 1) = 0 ∨ stores h = [] := by
  rw [recorded.view?_eq present]
  by_cases due : k % (skips + 1) = 0
  · simp [due]
  · simp [due]

theorem Recorded.view?_eq_some (recorded : Recorded h o) {c : Invocation}
    (present : o.calls[k]? = some c) :
    o.view? skips c = some v ↔
      k % (skips + 1) ≠ 0 ∧ ∃ j, (stores h).getLast? = some (j, v) := by
  rw [recorded.view?_eq present]
  by_cases due : k % (skips + 1) = 0
  · simp [due]
  · simp [due]

/-- On schedule, and while nothing is stored, an invocation that looks runs the check inside. -/
theorem Recorded.run_iff (recorded : Recorded h o)
    (present : o.calls[k]? = some ⟨number, .numbered⟩) :
    (∃ next, o.step? skips (.run k) = some next) ↔ k % (skips + 1) = 0 ∨ stores h = [] := by
  rw [← recorded.view?_eq_none present]
  constructor
  · rintro ⟨next, taken⟩
    obtain ⟨_, present', nothing⟩ := step?_run taken
    rwa [Option.some.inj (present.symm.trans present')]
  · intro nothing
    exact ⟨_, (step?_eq_some rfl).mpr ⟨_, _, _, present, .run nothing, rfl⟩⟩

/-- Otherwise it finds what was stored last. -/
theorem Recorded.replay_iff (recorded : Recorded h o)
    (present : o.calls[k]? = some ⟨number, .numbered⟩) :
    (∃ next, o.step? skips (.replay k v) = some next) ↔
      k % (skips + 1) ≠ 0 ∧ ∃ j, (stores h).getLast? = some (j, v) := by
  rw [← recorded.view?_eq_some present]
  constructor
  · rintro ⟨next, taken⟩
    obtain ⟨_, present', found⟩ := step?_replay taken
    rwa [Option.some.inj (present.symm.trans present')]
  · intro found
    exact ⟨_, (step?_eq_some rfl).mpr ⟨_, _, _, present, .replay v found, rfl⟩⟩

theorem run_condition (taken : fresh.steps? skips (before ++ .run k :: after) = some o) :
    k % (skips + 1) = 0 ∨ stores before = [] := by
  obtain ⟨middle, next, recorded, taken⟩ := before_step taken
  obtain ⟨_, present, nothing⟩ := step?_run taken
  exact (recorded.view?_eq_none present).mp nothing

theorem replay_condition (taken : fresh.steps? skips (before ++ .replay k v :: after) = some o) :
    k % (skips + 1) ≠ 0 ∧ ∃ j, (stores before).getLast? = some (j, v) := by
  obtain ⟨middle, next, recorded, taken⟩ := before_step taken
  obtain ⟨_, present, found⟩ := step?_replay taken
  exact (recorded.view?_eq_some present).mp found

/-! ### Stores and answers -/

theorem mem_of_own {step : Step} {steps : List Step} (trail : own k h = steps)
    (member : step ∈ steps) : step ∈ h := by
  subst trail
  exact (List.mem_filter.mp member).1

theorem store_condition (taken : fresh.steps? skips (before ++ .store k v :: after) = some o) :
    own k before = [.run k, .finish k v] := by
  obtain ⟨middle, next, recorded, taken⟩ := before_step taken
  obtain ⟨_, _, _, present, move, -⟩ := (step?_eq_some rfl).mp taken
  cases move with
  | store _ =>
    have trail := recorded.trail k _ present
    generalize own k before = steps at trail
    cases trail
    rfl

theorem answer_condition (taken : fresh.steps? skips (before ++ .answer k v :: after) = some o) :
    own k before = [.replay k v] ∨ own k before = [.run k, .finish k v, .store k v] := by
  obtain ⟨middle, next, recorded, taken⟩ := before_step taken
  obtain ⟨_, _, _, present, move, -⟩ := (step?_eq_some rfl).mp taken
  have trail := recorded.trail k _ present
  generalize own k before = steps at trail
  cases move with
  | repeated _ => cases trail; exact .inl rfl
  | answer _ => cases trail; exact .inr rfl

theorem mem_of_stores (stored : (k, v) ∈ stores h) : .store k v ∈ h := by
  obtain ⟨step, member, stored⟩ := List.mem_filterMap.mp stored
  cases step with
  | store _ _ =>
    obtain ⟨rfl, rfl⟩ := Prod.mk.inj (Option.some.inj stored)
    exact member
  | _ => cases stored

/-- The verdict of an answer comes from a run of the check inside that had ended before. -/
theorem finish_of_answer (taken : fresh.steps? skips (before ++ .answer k v :: after) = some o) :
    ∃ j, .finish j v ∈ before := by
  rcases answer_condition taken with repeated | ran
  · obtain ⟨first, rest, rfl⟩ := List.append_of_mem (mem_of_own repeated List.mem_cons_self)
    rw [List.append_assoc, List.cons_append] at taken
    obtain ⟨-, j, last⟩ := replay_condition taken
    obtain ⟨first', rest', rfl⟩ := List.append_of_mem (mem_of_stores (List.mem_of_getLast? last))
    rw [List.append_assoc, List.cons_append] at taken
    have ended : Step.finish j v ∈ first' := mem_of_own (store_condition taken) (by simp)
    exact ⟨j, List.mem_append_left _ (List.mem_append_left _ ended)⟩
  · exact ⟨k, mem_of_own ran (by simp)⟩

theorem finish_of_due (due : k % (skips + 1) = 0)
    (taken : fresh.steps? skips (before ++ .answer k v :: after) = some o) :
    .finish k v ∈ before := by
  rcases answer_condition taken with repeated | ran
  · obtain ⟨first, rest, rfl⟩ := List.append_of_mem (mem_of_own repeated List.mem_cons_self)
    rw [List.append_assoc, List.cons_append] at taken
    exact absurd due (replay_condition taken).1
  · exact mem_of_own ran (by simp)

theorem Trail.path {steps : List Step} (trail : Trail k stage steps) :
    ∃ v, steps <+: [.replay k v, .answer k v] ∨
      steps <+: [.run k, .finish k v, .store k v, .answer k v] := by
  cases trail with
  | numbered => exact ⟨.healthy, .inl List.nil_prefix⟩
  | repeating v => exact ⟨v, .inl (by simp)⟩
  | running => exact ⟨.healthy, .inr (by simp)⟩
  | ran v => exact ⟨v, .inr (by simp)⟩
  | stored v => exact ⟨v, .inr (by simp)⟩
  | repeated v => exact ⟨v, .inl (by simp)⟩
  | answered v => exact ⟨v, .inr (by simp)⟩

theorem Recorded.path (recorded : Recorded h o) (k : Nat) :
    ∃ v, own k h <+: [.replay k v, .answer k v] ∨
      own k h <+: [.run k, .finish k v, .store k v, .answer k v] := by
  rcases Nat.lt_or_ge k o.calls.length with inside | beyond
  · exact (recorded.trail k o.calls[k] (List.getElem?_eq_getElem inside)).path
  · rw [recorded.absent k beyond]
    exact Trail.numbered.path

/-- An invocation that has not answered is never stuck. -/
theorem exists_next (present : o.calls[k]? = some ⟨number, stage⟩)
    (open_ : ∀ v, stage ≠ .answered v) :
    ∃ step next, step.caller? = some k ∧ o.step? skips step = some next := by
  have moves : ∃ step stage', Move k (o.view? skips ⟨number, stage⟩) stage step stage' := by
    cases stage with
    | numbered =>
      cases view : o.view? skips ⟨number, .numbered⟩ with
      | none => exact ⟨_, _, .run rfl⟩
      | some v => exact ⟨_, _, .replay v rfl⟩
    | repeating v => exact ⟨_, _, .repeated v⟩
    | running => exact ⟨_, _, .finish .healthy⟩
    | ran v => exact ⟨_, _, .store v⟩
    | stored v => exact ⟨_, _, .answer v⟩
    | answered v => exact absurd rfl (open_ v)
  obtain ⟨step, stage', move⟩ := moves
  have caller := (next_of_move move).1
  exact ⟨step, _, caller, (step?_eq_some caller).mpr ⟨_, _, _, present, move, rfl⟩⟩

/-- Of `n` invocations that all have answered, those on schedule ran the check inside. -/
theorem ceilDiv_le_finished (taken : fresh.steps? skips h = some o)
    (answered : ∀ c ∈ o.calls, ∃ v, c.stage = .answered v) :
    o.calls.length ⌈/⌉ (skips + 1) ≤ (h.filterMap Step.finished?).length := by
  have recorded := recorded_fresh.steps taken
  rw [List.nil_append] at recorded
  have ran : ∀ k < o.calls.length, k % (skips + 1) = 0 → k ∈ h.filterMap Step.finished? := by
    intro k inside due
    obtain ⟨v, stage⟩ := answered o.calls[k] (List.getElem_mem inside)
    have trail := recorded.trail k o.calls[k] (List.getElem?_eq_getElem inside)
    rw [stage] at trail
    have told : .answer k v ∈ h := by
      refine mem_of_own (k := k) rfl ?_
      generalize own k h = steps at trail ⊢
      cases trail <;> simp
    obtain ⟨before, after, rfl⟩ := List.append_of_mem told
    have ended := finish_of_due due taken
    exact List.mem_filterMap.mpr ⟨.finish k v, List.mem_append_left _ ended, rfl⟩
  have due : ((List.range (o.calls.length ⌈/⌉ (skips + 1))).map ((skips + 1) * ·)).Nodup :=
    List.nodup_range.map fun a b same => Nat.eq_of_mul_eq_mul_left (Nat.succ_pos skips) same
  have all : (List.range (o.calls.length ⌈/⌉ (skips + 1))).map ((skips + 1) * ·) ⊆
      h.filterMap Step.finished? := by
    intro k member
    obtain ⟨i, inRange, rfl⟩ := List.mem_map.mp member
    have below : ¬o.calls.length ⌈/⌉ (skips + 1) ≤ i := Nat.not_le.mpr (List.mem_range.mp inRange)
    rw [ceilDiv_le_iff_le_smul (Nat.succ_pos skips), smul_eq_mul] at below
    exact ran _ (Nat.not_le.mp below) (Nat.mul_mod_right ..)
  simpa using (due.subperm all).length_le

/-! ### The evaluations of a session -/

/-- To begin the evaluation of a skipping check takes a number and looks, with nothing between. -/
theorem steps?_begin {key : Cell.Key} {inner : Probe} (outside : .cell key ∉ inner.places)
    {w : World} (same : o.cell = w.cell key) :
    ∃ look next, o.steps? skips [.call, look] = some next ∧
      next.cell = ((Probe.skip key skips inner).begin w).1.cell key ∧
      ((look = .run o.calls.length ∧ ((Probe.skip key skips inner).begin w).2 =
          (inner.begin (w.turn key)).2.stored key inner) ∨
        ∃ v, look = .replay o.calls.length v ∧
          ((Probe.skip key skips inner).begin w).2 = .ends 0 [] (.verdict v)) := by
  have present : o.call.calls[o.calls.length]? = some ⟨o.cell.turn.turns, .numbered⟩ := by
    simp [call]
  have view : o.call.view? skips ⟨o.cell.turn.turns, .numbered⟩ = (w.cell key).replay? skips := by
    rw [← same]
    rfl
  have turned : o.call.cell = (w.turn key).cell key := by
    simp [call, World.turn, same]
  have both : ∀ look next, o.call.step? skips look = some next →
      o.steps? skips [.call, look] = some next := by
    intro look next taken
    exact (congrArg (Option.bind · some) taken :)
  cases found : (w.cell key).replay? skips with
  | none =>
    have kept : ((inner.begin (w.turn key)).1).cell key = (w.turn key).cell key :=
      Sum.inr.inj (Probe.read_begin outside (w.turn key))
    refine ⟨.run o.calls.length, _, both _ _ ((step?_eq_some rfl).mpr
      ⟨_, _, _, present, .run (view.trans found), rfl⟩), ?_, .inl ⟨rfl, ?_⟩⟩
    · simp only [Probe.begin, found]
      exact turned.trans kept.symm
    · simp only [Probe.begin, found]
  | some v =>
    refine ⟨.replay o.calls.length v, _, both _ _ ((step?_eq_some rfl).mpr
      ⟨_, _, _, present, .replay v (view.trans found), rfl⟩), ?_, .inr ⟨v, rfl, ?_⟩⟩
    · simp only [Probe.begin, found]
      exact turned
    · simp only [Probe.begin, found]

/-- The effects of its end are those of a run that ends and stores. -/
theorem steps?_ends {key : Cell.Key} {inner : Probe} (outside : .cell key ∉ inner.places)
    {begun w : World} {after : Nat} {effects : List Effect} {outcome : Outcome}
    (course : (inner.begin begun).2 = .ends after effects outcome)
    (reply : inner.reply outcome = .verdict v) (same : o.cell = w.cell key)
    (running : o.calls[k]? = some ⟨number, .running⟩) :
    ∃ next, o.steps? skips [.finish k v, .store k v] = some next ∧
      next.cell =
        (Effect.applyAll w ((inner.begin begun).2.stored key inner).effects).cell key := by
  have within := inner.within_begin begun
  rw [course] at within
  have kept : (Effect.applyAll w effects).cell key = w.cell key := by
    have other : ∀ e ∈ effects, e.place? ≠ some (.cell key) := fun e member writes =>
      outside (within e member (.cell key) writes)
    exact Sum.inr.inj (Effect.read_applyAll other w)
  have inside := (List.getElem?_eq_some_iff.mp running).1
  have ended : o.step? skips (.finish k v) = some ⟨o.cell, o.calls.set k ⟨number, .ran v⟩⟩ :=
    (step?_eq_some rfl).mpr ⟨_, _, _, running, .finish v, rfl⟩
  have ran : (o.calls.set k ⟨number, .ran v⟩)[k]? = some ⟨number, .ran v⟩ :=
    List.getElem?_set_self inside
  have stored : step? skips ⟨o.cell, o.calls.set k ⟨number, .ran v⟩⟩ (.store k v) = some _ :=
    (step?_eq_some rfl).mpr ⟨_, _, _, ran, .store v, rfl⟩
  refine ⟨_, by rw [steps?, ended, Option.bind_some, steps?, stored]; rfl, ?_⟩
  have all : ((inner.begin begun).2.stored key inner).effects = effects ++ [.stored key v] := by
    simp [course, Course.stored, reply, Course.effects]
  rw [all, Effect.applyAll_append]
  simp [Effect.applyAll, Effect.apply, World.store, Step.leave, same, ← kept]

/-! ### All of it -/

theorem Recorded.numbers (recorded : Recorded h o) :
    o.calls.map (·.number) = List.range' 1 o.calls.length := by
  refine List.ext_getElem (by simp) fun k inside _ => ?_
  have below : k < o.calls.length := by simpa using inside
  rw [List.getElem_map, recorded.numbered k o.calls[k] (List.getElem?_eq_getElem below)]
  simp [Nat.add_comm]

theorem Recorded.answer_of_replay (recorded : Recorded h o) {v' : Verdict}
    (repeats : .replay k v ∈ h) (answers : .answer k v' ∈ h) : v' = v := by
  have first : Step.replay k v ∈ own k h := List.mem_filter.mpr ⟨repeats, by simp [Step.caller?]⟩
  have last : Step.answer k v' ∈ own k h := List.mem_filter.mpr ⟨answers, by simp [Step.caller?]⟩
  obtain ⟨w, repeating | running⟩ := recorded.path k
  · have said := repeating.subset first
    have told := repeating.subset last
    simp only [List.mem_cons, Step.replay.injEq, Step.answer.injEq, reduceCtorEq, true_and,
      List.not_mem_nil, or_false, false_or] at said told
    rw [said, told]
  · have said := running.subset first
    simp at said

/-- What holds of all invocations of a skipping check after any interleaving of their steps. The
invocation at place `k` has the number `k + 1`. -/
theorem overlap_truthful (taken : fresh.steps? skips h = some o) :
    -- The numbers are 1, 2, 3 and so on.
    o.calls.map (·.number) = List.range' 1 o.calls.length ∧
    -- Every invocation takes the steps of one of two paths, and is never stuck before its answer.
    (∀ k, ∃ v, own k h <+: [.replay k v, .answer k v] ∨
      own k h <+: [.run k, .finish k v, .store k v, .answer k v]) ∧
    (∀ k number stage, o.calls[k]? = some ⟨number, stage⟩ → (∀ v, stage ≠ .answered v) →
      ∃ step next, step.caller? = some k ∧ o.step? skips step = some next) ∧
    -- One that looks has to run the check inside if it is on schedule or nothing is stored, and
    -- repeats what was stored last otherwise.
    (∀ k number, o.calls[k]? = some ⟨number, .numbered⟩ →
      ((∃ next, o.step? skips (.run k) = some next) ↔
        (number - 1) % (skips + 1) = 0 ∨ stores h = []) ∧
      ∀ v, (∃ next, o.step? skips (.replay k v) = some next) ↔
        (number - 1) % (skips + 1) ≠ 0 ∧ ∃ j, (stores h).getLast? = some (j, v)) ∧
    (∀ before k after, h = before ++ .run k :: after →
      k % (skips + 1) = 0 ∨ stores before = []) ∧
    (∀ before k v after, h = before ++ .replay k v :: after →
      k % (skips + 1) ≠ 0 ∧ (∃ j, (stores before).getLast? = some (j, v)) ∧
        ∀ v', .answer k v' ∈ h → v' = v) ∧
    -- Every answer comes from a run of the check inside that has ended: from the invocation's own
    -- run if it is on schedule.
    (∀ before k v after, h = before ++ .answer k v :: after →
      (∃ j, .finish j v ∈ before) ∧ (k % (skips + 1) = 0 → .finish k v ∈ before)) ∧
    -- When all have answered, the check inside was run by at least one in `skips + 1` of them.
    ((∀ c ∈ o.calls, ∃ v, c.stage = .answered v) →
      o.calls.length ⌈/⌉ (skips + 1) ≤ (h.filterMap Step.finished?).length) ∧
    -- The evaluations of a session take these steps: two at the begin, two more at the end.
    (∀ key (inner : Probe) w, .cell key ∉ inner.places → o.cell = w.cell key →
      ∃ look next, o.steps? skips [.call, look] = some next ∧
        next.cell = ((Probe.skip key skips inner).begin w).1.cell key ∧
        ((look = .run o.calls.length ∧ ((Probe.skip key skips inner).begin w).2 =
            (inner.begin (w.turn key)).2.stored key inner) ∨
          ∃ v, look = .replay o.calls.length v ∧
            ((Probe.skip key skips inner).begin w).2 = .ends 0 [] (.verdict v))) ∧
    (∀ key (inner : Probe) begun w after effects outcome v k number, .cell key ∉ inner.places →
      (inner.begin begun).2 = .ends after effects outcome → inner.reply outcome = .verdict v →
      o.cell = w.cell key → o.calls[k]? = some ⟨number, .running⟩ →
      ∃ next, o.steps? skips [.finish k v, .store k v] = some next ∧
        next.cell =
          (Effect.applyAll w ((inner.begin begun).2.stored key inner).effects).cell key) := by
  have recorded := recorded_fresh.steps taken
  rw [List.nil_append] at recorded
  refine ⟨recorded.numbers, recorded.path, ?_, ?_, ?_, ?_, ?_, ceilDiv_le_finished taken, ?_, ?_⟩
  · intro k number stage present open_
    exact exists_next present open_
  · intro k number present
    obtain rfl : number = k + 1 := recorded.numbered k _ present
    rw [Nat.add_sub_cancel]
    exact ⟨recorded.run_iff present, fun v => recorded.replay_iff present⟩
  · rintro before k after rfl
    exact run_condition taken
  · rintro before k v after rfl
    obtain ⟨off, last⟩ := replay_condition taken
    exact ⟨off, last, fun v' => recorded.answer_of_replay (by simp)⟩
  · rintro before k v after rfl
    exact ⟨finish_of_answer taken, fun due => finish_of_due due taken⟩
  · intro key inner w outside same
    exact steps?_begin outside same
  · intro key inner begun w after effects outcome v k number outside course reply same running
    exact steps?_ends outside course reply same running

/-- Four invocations that cross: the first two both run, and the last repeats the older verdict. -/
def crossing : List Step :=
  [.call, .call, .run 1, .run 0, .finish 1 (.ok "b"), .store 1 (.ok "b"), .finish 0 (.ok "a"),
    .call, .store 0 (.ok "a"), .call, .replay 3 (.ok "a"), .answer 1 (.ok "b"),
    .answer 3 (.ok "a"), .run 2, .answer 0 (.ok "a"), .finish 2 (.ok "c"), .store 2 (.ok "c"),
    .answer 2 (.ok "c")]

theorem overlap_truthful_crossing :
    ∃ o, fresh.steps? 1 crossing = some o ∧ o.calls.map (·.number) = [1, 2, 3, 4] ∧
      2 ≤ (crossing.filterMap Step.finished?).length ∧
      ∀ v, .answer 3 v ∈ crossing → v = .ok "a" := by
  let last : Overlap := ⟨⟨4, some (.ok "c")⟩, [⟨1, .answered (.ok "a")⟩, ⟨2, .answered (.ok "b")⟩,
    ⟨3, .answered (.ok "c")⟩, ⟨4, .answered (.ok "a")⟩]⟩
  have taken : fresh.steps? 1 crossing = some last := rfl
  obtain ⟨numbers, -, -, -, -, replays, -, count, -⟩ := overlap_truthful taken
  have answered : ∀ c ∈ last.calls, ∃ v, c.stage = .answered v := by simp [last]
  have half : last.calls.length ⌈/⌉ (1 + 1) = 2 := Nat.ceilDiv_eq_add_pred_div 4 2
  refine ⟨last, taken, numbers, half ▸ count answered, ?_⟩
  exact (replays (crossing.take 10) 3 (.ok "a") _ rfl).2.2

end HealthWatch.Overlap
