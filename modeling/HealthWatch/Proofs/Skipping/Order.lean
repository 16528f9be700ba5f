import HealthWatch.Fanout
import HealthWatch.Proofs.Skipping.Replays

/-!
# The order in which verdicts are repeated

What an invocation repeats was stored last, so what is answered later was stored later, and answers
never go back to a run that was begun before as long as the runs are stored in the order of their
begin: `later_answers`. A run that outlives its round can be stored out of this order, and then even
a caller that never begins a round before the last one has returned sees an older verdict after a
newer one: `reports_go_back`.
-/

namespace HealthWatch

namespace Overlap

open scoped List

variable {skips k a b : Nat} {o : Overlap} {h before after early rest : List Step} {v w : Verdict}

def Step.began? : Step → Option Nat
  | .run k => some k
  | _ => none

/-- The invocations that run the check inside, in the order of the begin of these runs. -/
def runs (h : List Step) : List Nat :=
  h.filterMap Step.began?

/-- The invocation whose run is answered by an invocation that has looked: its own one, or the one
that was stored last when it looked. -/
def source? (k : Nat) (h : List Step) : Option Nat :=
  if .run k ∈ h then some k
  else (stores (h.takeWhile fun step => step.caller? != some k)).getLast?.map (·.1)

/-! ### Sources -/

theorem takeWhile_before {step : Step} (unlooked : own k before = [])
    (caller : step.caller? = some k) :
    (before ++ step :: after).takeWhile (fun step => step.caller? != some k) = before := by
  have others : ∀ s ∈ before, (s.caller? != some k) = true := by
    intro s member
    have : ¬(s.caller? == some k) = true := List.filter_eq_nil_iff.mp unlooked s member
    simpa using this
  rw [List.takeWhile_append_of_pos others, List.takeWhile_cons_of_neg (by simp [caller]),
    List.append_nil]

theorem unlooked_of_replay (taken : fresh.steps? skips (before ++ .replay k v :: after) = some o) :
    own k before = [] := by
  obtain ⟨middle, next, recorded, taken⟩ := before_step taken
  obtain ⟨number, present, -⟩ := step?_replay taken
  have trail := recorded.trail k _ present
  generalize own k before = steps at trail ⊢
  cases trail
  rfl

theorem not_run_of_replay (taken : fresh.steps? skips h = some o) (repeats : .replay k v ∈ h) :
    .run k ∉ h := by
  intro ran
  have recorded := recorded_fresh.steps taken
  have first : Step.replay k v ∈ own k h := List.mem_filter.mpr ⟨repeats, by simp [Step.caller?]⟩
  have other : Step.run k ∈ own k h := List.mem_filter.mpr ⟨ran, by simp [Step.caller?]⟩
  obtain ⟨w, repeating | running⟩ := recorded.path k
  · simpa using repeating.subset other
  · simpa using running.subset first

theorem source_of_replay (taken : fresh.steps? skips (before ++ .replay k v :: after) = some o) :
    ∃ j, source? k (before ++ .replay k v :: after) = some j ∧
      (stores before).getLast? = some (j, v) := by
  obtain ⟨-, j, last⟩ := replay_condition taken
  refine ⟨j, ?_, last⟩
  have repeats : Step.replay k v ∈ before ++ .replay k v :: after := by simp
  rw [source?, if_neg (not_run_of_replay taken repeats),
    takeWhile_before (unlooked_of_replay taken) rfl, last]
  rfl

/-- Behind an answer stands a run of the check inside that was stored before. -/
theorem source_of_answer (taken : fresh.steps? skips (early ++ .answer a v :: rest) = some o) :
    ∃ i, source? a (early ++ .answer a v :: rest) = some i ∧ .store i v ∈ early := by
  rcases answer_condition taken with repeated | ran
  · obtain ⟨first, more, rfl⟩ := List.append_of_mem (mem_of_own repeated List.mem_cons_self)
    rw [List.append_assoc, List.cons_append] at taken ⊢
    obtain ⟨i, source, last⟩ := source_of_replay taken
    exact ⟨i, source, List.mem_append_left _ (mem_of_stores (List.mem_of_getLast? last))⟩
  · have began : Step.run a ∈ early := mem_of_own ran List.mem_cons_self
    exact ⟨a, if_pos (List.mem_append_left _ began), mem_of_own ran (by simp)⟩

/-! ### Order -/

theorem runs_nodup (taken : fresh.steps? skips h = some o) : (runs h).Nodup := by
  have recorded := recorded_fresh.steps taken
  refine List.nodup_iff_count_le_one.mpr fun k => ?_
  have own_ : (runs h).count k = (own k h).count (.run k) := by
    rw [runs, List.count_filterMap, own, List.count_filter (by simp [Step.caller?]), List.count]
    refine List.countP_congr fun step _ => ?_
    cases step <;> simp [Step.began?]
  rw [own_]
  obtain ⟨w, repeating | running⟩ := recorded.path k
  · exact Nat.le_trans (repeating.sublist.count_le _) (by simp)
  · exact Nat.le_trans (running.sublist.count_le _) (by simp)

theorem getLast?_later {α : Type} {l : List α} {x y : α} (member : x ∈ l)
    (last : l.getLast? = some y) : x = y ∨ [x, y] <+ l := by
  obtain ⟨front, rfl⟩ := List.getLast?_eq_some_iff.mp last
  rcases List.mem_append.mp member with before | this
  · exact .inr ((List.singleton_sublist.mpr before).append (List.Sublist.refl [y]))
  · exact .inl (List.mem_singleton.mp this)

/-- In a list without duplicates one of two comes first. -/
theorem not_swapped {l : List Nat} {i j : Nat} (distinct : l.Nodup)
    (ordered : i = j ∨ [i, j] <+ l) : ¬[j, i] <+ l := by
  intro swapped
  rcases ordered with rfl | ordered
  · simpa using distinct.sublist swapped
  · induction l with
    | nil => cases swapped
    | cons x rest ih =>
      obtain ⟨fresh_, distinct⟩ := List.nodup_cons.mp distinct
      cases ordered with
      | cons _ ordered =>
        cases swapped with
        | cons _ swapped => exact ih distinct swapped ordered
        | cons_cons _ swapped => exact fresh_ (ordered.subset (by simp))
      | cons_cons _ ordered =>
        cases swapped with
        | cons _ swapped => exact fresh_ (swapped.subset (by simp))
        | cons_cons _ swapped => exact fresh_ (swapped.subset (by simp))

theorem run_of_store (taken : fresh.steps? skips h = some o) (stored : .store k v ∈ h) :
    .finish k v ∈ h ∧ .run k ∈ h := by
  obtain ⟨before, after, rfl⟩ := List.append_of_mem stored
  have ran := store_condition taken
  exact ⟨List.mem_append_left _ (mem_of_own ran (by simp)),
    List.mem_append_left _ (mem_of_own ran (by simp))⟩

/-- An invocation that began after another had answered answers with the same run, with its own one,
or with one that was stored later. -/
theorem source_later (taken : fresh.steps? skips (early ++ .answer a v :: rest) = some o)
    (later : early.count .call ≤ b) (told : .answer b w ∈ rest) {i : Nat}
    (stored : .store i v ∈ early) :
    ∃ j, source? b (early ++ .answer a v :: rest) = some j ∧
      .store j w ∈ early ++ .answer a v :: rest ∧
      (i = j ∨ (j = b ∧ .run b ∈ rest) ∨
        [i, j] <+ (stores (early ++ .answer a v :: rest)).map (·.1)) := by
  have absent : own b early = [] := by
    obtain ⟨middle, next, recorded, -⟩ := before_step taken
    exact recorded.absent b (recorded.size ▸ later)
  have different : b ≠ a := by
    rintro rfl
    rcases answer_condition taken with looked | looked <;> simp [absent] at looked
  -- What the later invocation does comes after the answer of the other one.
  have behind : ∀ {step : Step} {steps : List Step}, step.caller? = some b →
      step ∈ early ++ .answer a v :: steps → step ∈ steps := by
    intro step steps caller member
    rcases List.mem_append.mp member with before | after
    · have own_ : step ∈ own b early := List.mem_filter.mpr ⟨before, by simp [caller]⟩
      rw [absent] at own_
      cases own_
    · rcases List.mem_cons.mp after with rfl | after
      · exact absurd (Option.some.inj caller).symm different
      · exact after
  obtain ⟨middle, last, rfl⟩ := List.append_of_mem told
  have atAnswer := taken
  rw [← List.cons_append, ← List.append_assoc] at atAnswer
  rcases answer_condition atAnswer with repeated | ran
  · have repeats := behind rfl (mem_of_own repeated List.mem_cons_self)
    obtain ⟨first, more, rfl⟩ := List.append_of_mem repeats
    rw [List.append_assoc, List.cons_append, ← List.cons_append, ← List.append_assoc] at taken ⊢
    obtain ⟨j, source, newest⟩ := source_of_replay taken
    have known : (i, v) ∈ stores (early ++ .answer a v :: first) :=
      List.mem_filterMap.mpr ⟨.store i v, List.mem_append_left _ stored, rfl⟩
    refine ⟨j, source, List.mem_append_left _ (mem_of_stores (List.mem_of_getLast? newest)), ?_⟩
    rcases getLast?_later known newest with same | ordered
    · exact .inl (Prod.mk.inj same).1
    · have all := ordered.trans ((List.sublist_append_left (early ++ .answer a v :: first)
        (.replay b w :: (more ++ .answer b w :: last))).filterMap Step.stored?)
      exact .inr (.inr (all.map Prod.fst))
  · have began := behind rfl (mem_of_own ran List.mem_cons_self)
    have kept : Step.store b w ∈ early ++ .answer a v :: middle := mem_of_own ran (by simp)
    refine ⟨b, if_pos (by simp [began]), ?_, .inr (.inl ⟨rfl, by simp [began]⟩)⟩
    rw [← List.cons_append, ← List.append_assoc]
    exact List.mem_append_left _ kept

/-- Answers keep the order in which the runs behind them were stored. They never go back to a run
that began before, as long as runs are stored in the order of their begin. -/
theorem later_answers (taken : fresh.steps? skips (early ++ .answer a v :: rest) = some o)
    (later : early.count .call ≤ b) (told : .answer b w ∈ rest) :
    ∃ i j, source? a (early ++ .answer a v :: rest) = some i ∧
      source? b (early ++ .answer a v :: rest) = some j ∧
      -- The answers are the verdicts of the runs behind them.
      .finish i v ∈ early ∧ .finish j w ∈ early ++ .answer a v :: rest ∧
      (i = j ∨ j = b ∨ [i, j] <+ (stores (early ++ .answer a v :: rest)).map (·.1)) ∧
      ((stores (early ++ .answer a v :: rest)).map (·.1) <+ runs (early ++ .answer a v :: rest) →
        ¬[j, i] <+ runs (early ++ .answer a v :: rest)) := by
  obtain ⟨i, source, stored⟩ := source_of_answer taken
  obtain ⟨j, source', stored', ordered⟩ := source_later taken later told stored
  obtain ⟨middle, reached, -⟩ := Option.bind_eq_some_iff.mp (steps?_append ▸ taken)
  obtain ⟨ended, began⟩ := run_of_store reached stored
  obtain ⟨ended', -⟩ := run_of_store taken stored'
  refine ⟨i, j, source, source', ended, ended', ?_, ?_⟩
  · rcases ordered with same | ⟨own_, -⟩ | ordered
    · exact .inl same
    · exact .inr (.inl own_)
    · exact .inr (.inr ordered)
  · intro inOrder
    refine not_swapped (runs_nodup taken) ?_
    rcases ordered with same | ⟨rfl, fresh_⟩ | ordered
    · exact .inl same
    · right
      have first : i ∈ runs early := List.mem_filterMap.mpr ⟨.run i, began, rfl⟩
      have second : j ∈ runs (.answer a v :: rest) :=
        List.mem_filterMap.mpr ⟨.run j, List.mem_cons_of_mem _ fresh_, rfl⟩
      have parted : runs (early ++ .answer a v :: rest) =
          runs early ++ runs (.answer a v :: rest) := List.filterMap_append
      rw [parted]
      exact (List.singleton_sublist.mpr first).append (List.singleton_sublist.mpr second)
    · exact .inr (ordered.trans inOrder)

/-- Two runs that are stored in the order of their begin, and a verdict repeated twice. -/
def steady : List Step :=
  [.call, .run 0, .call, .run 1, .finish 0 (.ok "a"), .store 0 (.ok "a"), .answer 0 (.ok "a"),
    .finish 1 (.ok "b"), .store 1 (.ok "b"), .answer 1 (.ok "b"), .call, .replay 2 (.ok "b"),
    .answer 2 (.ok "b")]

theorem later_answers_steady :
    (stores steady).map (·.1) <+ runs steady ∧ source? 0 steady = some 0 ∧
      source? 2 steady = some 1 ∧ ¬[1, 0] <+ runs steady := by
  have possible : (fresh.steps? 2 steady).isSome = true := rfl
  obtain ⟨last, taken⟩ := Option.isSome_iff_exists.mp possible
  have inOrder : (stores steady).map (·.1) <+ runs steady := List.Sublist.refl _
  have parted : steady = steady.take 6 ++ .answer 0 (.ok "a") :: steady.drop 7 := rfl
  have later : (steady.take 6).count .call ≤ 2 := by decide
  have told : .answer 2 (.ok "b") ∈ steady.drop 7 := by decide
  obtain ⟨i, j, first, second, -, -, -, kept⟩ := later_answers (parted ▸ taken) later told
  obtain rfl : 0 = i := Option.some.inj first
  obtain rfl : 1 = j := Option.some.inj second
  exact ⟨inOrder, rfl, rfl, kept inOrder⟩

end Overlap

/-! ### A late run -/

namespace Roster

/-- What rounds report of a check, each begun after a pause when the last one has returned. -/
def reports (r : Roster) (workers : Workers) (name : String) :
    Session → List (Nat × Nat) → List (Option Verdict)
  | _, [] => []
  | s, (pause, timeout) :: rest =>
    let (s', results) := r.fanOut (s.advance pause) workers timeout
    results.find? name :: r.reports workers name s' rest

/-- The first call of the check takes longer than a round waits, all others end at once. -/
def slowStart : Leaf :=
  .ofList "probe" [.finish 100 (.verdict (.ok "first")), .finish 0 (.verdict (.ok "second"))] true

/-- The check runs once in three rounds. -/
def sparse : Roster :=
  ⟨.ofList [("probe", .skip ⟨0, "probe"⟩ 2 (.leaf slowStart))]⟩

/-- The second round reports the second call of the check, and the third one the first call, which
was begun before: it ended after the second call and was stored last. -/
theorem reports_go_back :
    slowStart.plan 0 = .finish 100 (.verdict (.ok "first")) ∧
      (∀ n, 0 < n → slowStart.plan n = .finish 0 (.verdict (.ok "second"))) ∧
      sparse.reports .borrow "probe" .fresh [(0, 20), (0, 20), (200, 20)] =
        [some .timedOut, some (.ok "second"), some (.ok "first")] := by
  refine ⟨rfl, fun n later => ?_, by decide +kernel⟩
  have second : min n 1 = 1 := by omega
  simp [slowStart, Leaf.ofList, second]

end Roster

end HealthWatch
