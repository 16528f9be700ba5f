import HealthWatch.Proofs.Heartbeat.Beats
import Mathlib.Data.List.Basic

/-!
# Beats in succession

A stop does not wait for the beat in flight, so a heartbeat that is started again at once beats
twice at the same time, and its listeners may hear of the older beat last (`older_beat_told_last`).
A beat that goes on beside that of the last run was in flight when its own run was stopped. If the
heartbeat is started at rest only, all its runs together show one whole beat after another
(`beats_in_turn`).
-/

namespace HealthWatch.Lifecycle

def Happening.ofBeat : Happening → Bool
  | .began .. | .told .. | .completed _ => true
  | .started _ | .stopped => false

def InBeat (l : Lifecycle) (i : Nat) : Prop :=
  ∃ r, l.run? i = some r ∧ inBeat r = true

def AtRest (l : Lifecycle) : Prop :=
  ∀ r ∈ l.runs, inBeat r = false

instance (l : Lifecycle) : Decidable l.AtRest :=
  inferInstanceAs (Decidable (∀ r ∈ l.runs, inBeat r = false))

/-- Every start that succeeds finds the heartbeat at rest. -/
def StartsRested (l : Lifecycle) : List Step → Prop
  | [] => True
  | step :: rest =>
    (step = .start → l.running = false → l.AtRest) ∧ (l.attempt step).StartsRested rest

variable {listeners : List Listener} {i : Nat} {l l' : Lifecycle} {h : List Happening}

theorem AtRest.not_inBeat (rest : l.AtRest) (i : Nat) : ¬l.InBeat i := by
  rintro ⟨r, present, beating⟩
  rw [rest r (List.mem_of_getElem? present)] at beating
  cases beating

/-! ### The run that was started last -/

/-- Only the last run is not told to end. -/
def Unstopped (l : Lifecycle) : Prop :=
  ∀ i r, l.run? i = some r → r.stopped = false → i + 1 = l.runs.length

/-- A turn that shows something, or that leads into a beat or goes on with one, is that of a run
which beats already or is free to begin. -/
theorem awake_of_turn {r r' : Run} {shown : List Happening} (turn : Turn listeners i r shown r')
    (awake : inBeat r' = true ∨ shown ≠ []) : inBeat r = true ∨ r.stopped = false := by
  cases turn <;> simp_all [inBeat]

theorem run?_start {r : Run} (present : (l.runs ++ [⟨false, .waiting⟩])[i]? = some r) :
    l.run? i = some r ∨ i = l.runs.length ∧ r = ⟨false, .waiting⟩ := by
  rw [List.getElem?_append] at present
  split at present
  · exact .inl present
  · rename_i outside
    rw [List.getElem?_singleton] at present
    split at present
    · exact .inr ⟨by omega, (Option.some.inj present).symm⟩
    · cases present

theorem LoopStep.run? {shown : List Happening} (loop : LoopStep l l' i shown) {j : Nat} {r' : Run}
    (present : l'.run? j = some r') :
    ∃ r, l.run? j = some r ∧ r'.stopped = r.stopped ∧
      (i ≠ j ∧ r' = r ∨ i = j ∧ Turn l.listeners i r shown r') := by
  obtain ⟨r₀, phase, found, runs, turn⟩ := loop.turn
  rw [Lifecycle.run?, runs, ← Lifecycle.run?] at present
  by_cases same : i = j
  · subst same
    rw [run?_setPhase_self found] at present
    obtain rfl := Option.some.inj present
    exact ⟨r₀, found, rfl, .inr ⟨rfl, turn⟩⟩
  · rw [run?_setPhase_other same] at present
    exact ⟨r', present, rfl, .inl ⟨same, rfl⟩⟩

theorem LoopStep.length {shown : List Happening} (loop : LoopStep l l' i shown) :
    l'.runs.length = l.runs.length := by
  obtain ⟨-, phase, -, runs, -⟩ := loop.turn
  rw [runs, length_setPhase]

theorem run?_of_stop {r : Run} (present : l.stop.run? i = some r) :
    ∃ r₀, l.run? i = some r₀ ∧ r = { r₀ with stopped := true } := by
  obtain ⟨r₀, was, same⟩ := Option.map_eq_some_iff.mp ((List.getElem?_map ..).symm.trans present)
  exact ⟨r₀, was, same.symm⟩

theorem unstopped_attempt (recorded : Recorded listeners l h) (unstopped : l.Unstopped)
    (step : Step) : (l.attempt step).Unstopped := by
  rw [attempt]
  cases taken : l.step? step with
  | none => exact unstopped
  | some l' =>
    rcases step_cases taken with ⟨idle, -, rfl⟩ | ⟨-, rfl⟩ | ⟨j, loop⟩
    · intro i r present going
      rw [Option.getD_some, List.length_append, List.length_singleton]
      rcases run?_start present with old | ⟨rfl, -⟩
      -- A heartbeat that does not run has told all its runs to end.
      · rw [recorded.signalled i r old going] at idle
        cases idle
      · rfl
    · intro i r present going
      rw [stopped_stop present] at going
      cases going
    · intro i r present going
      obtain ⟨r₀, was, same, -⟩ := loop.run? present
      rw [Option.getD_some, loop.length]
      exact unstopped i r₀ was (same ▸ going)

/-! ### The begin of a beat in progress -/

/-- Every beat in progress has begun, and its run is told to end if it was stopped since then. -/
def Begun (l : Lifecycle) (h : List Happening) : Prop :=
  ∀ i r, l.run? i = some r → inBeat r = true → ∃ before active after,
    h = before ++ .began i active :: after ∧ .completed i ∉ after ∧
      (r.stopped = true ↔ .stopped ∈ after)

theorem Begun.append (begun : Begun l h) {r r' : Run} {shown : List Happening}
    (present : l.run? i = some r) (beating : inBeat r = true) (goes : .completed i ∉ shown)
    (told : r'.stopped = true ↔ r.stopped = true ∨ .stopped ∈ shown) :
    ∃ before active after, h ++ shown = before ++ .began i active :: after ∧
      .completed i ∉ after ∧ (r'.stopped = true ↔ .stopped ∈ after) := by
  obtain ⟨before, active, after, rfl, going, stops⟩ := begun i r present beating
  exact ⟨before, active, after ++ shown, by simp, by simp [going, goes],
    by rw [told, stops, List.mem_append]⟩

theorem Begun.loop (begun : Begun l h) {shown : List Happening} (loop : LoopStep l l' i shown) :
    Begun l' (h ++ shown) := by
  have quiet : .stopped ∉ shown := fun member => Bool.false_ne_true (loop.own _ member)
  intro j r' present beating
  obtain ⟨r, was, same, ⟨other, rfl⟩ | ⟨rfl, turn⟩⟩ := loop.run? present
  · refine begun.append was beating (fun member => ?_) (by simp [quiet])
    exact other (ofRun_unique (loop.own _ member) (BEq.rfl (a := j)))
  · cases turn with
    | began active => exact ⟨h, active, [], rfl, by simp, by simp⟩
    | stay => exact begun.append was beating (by simp) (by simp)
    | halt => exact begun.append was beating (by simp) (by simpa using same.symm)
    | collected | told => exact begun.append was rfl (by simp) (by simp)
    | ended | completed => cases beating

theorem begun_attempt (begun : Begun l h) (step : Step) :
    Begun (l.attempt step) (h ++ l.happenings step) := by
  rw [attempt, happenings]
  cases taken : l.step? step with
  | none => simpa using begun
  | some l' =>
    dsimp only [Option.getD_some]
    rcases step_cases taken with ⟨-, shown, rfl⟩ | ⟨shown, rfl⟩ | ⟨j, loop⟩
    · rw [shown]
      intro i r present beating
      rcases run?_start present with old | ⟨-, rfl⟩
      · exact begun.append old beating (by simp) (by simp)
      · cases beating
    · rw [shown]
      intro i r present beating
      obtain ⟨r₀, was, rfl⟩ := run?_of_stop present
      exact begun.append was beating (by simp) (by simp)
    · exact begun.loop loop

/-! ### Starts at rest -/

/-- Only the last run beats, and the beats of a run show after those of all earlier ones. -/
structure Succeeding (l : Lifecycle) (h : List Happening) : Prop where
  current : ∀ i, l.InBeat i → i + 1 = l.runs.length
  order : h.filter Happening.ofBeat = (List.range l.runs.length).flatMap (own · h)

theorem ofBeat_of_ofRun {e : Happening} (ours : e.ofRun i = true) : e.ofBeat = true := by
  cases e <;> simp_all [Happening.ofRun, Happening.ofBeat]

theorem Succeeding.loop (succeeding : Succeeding l h) (unstopped : l.Unstopped)
    {shown : List Happening} (loop : LoopStep l l' i shown) : Succeeding l' (h ++ shown) := by
  -- Only the run started last shows anything: the earlier ones neither beat nor may begin to.
  have last : ∀ {r r'}, l.run? i = some r → Turn l.listeners i r shown r' →
      inBeat r' = true ∨ shown ≠ [] → i + 1 = l.runs.length := by
    intro r r' present turn awake
    rcases awake_of_turn turn awake with beating | free
    · exact succeeding.current i ⟨r, present, beating⟩
    · exact unstopped i r present free
  constructor
  · rintro j ⟨r', present, beating⟩
    rw [loop.length]
    obtain ⟨r, was, -, ⟨-, rfl⟩ | ⟨rfl, turn⟩⟩ := loop.run? present
    · exact succeeding.current j ⟨r', was, beating⟩
    · exact last was turn (.inl beating)
  · have all : shown.filter Happening.ofBeat = shown :=
      List.filter_eq_self.mpr fun e member => ofBeat_of_ofRun (loop.own e member)
    rw [List.filter_append, all, succeeding.order, loop.length]
    by_cases silent : shown = []
    · simp [silent]
    · obtain ⟨r, phase, present, -, turn⟩ := loop.turn
      have ours : own i shown = shown := List.filter_eq_self.mpr loop.own
      have others : ∀ j ∈ List.range i, own j (h ++ shown) = own j h := by
        intro j earlier
        rw [own_append, loop.own_other (Nat.ne_of_gt (List.mem_range.mp earlier)),
          List.append_nil]
      rw [← last present turn (.inr silent), List.range_succ, List.flatMap_append,
        List.flatMap_append, List.flatMap_congr others]
      simp [own_append, ours]

theorem start_of_shown {step : Step} (shown : l.shown? l' step = some (.started i)) :
    step = .start := by
  cases step with
  | start => rfl
  | wake i active =>
    rw [shown?] at shown
    split at shown <;> cases shown
  | deliver i =>
    obtain ⟨_, -, told⟩ := Option.map_eq_some_iff.mp shown
    cases told
  | _ => cases shown

theorem Succeeding.start (succeeding : Succeeding l h) (recorded : Recorded listeners l h)
    (rest : l.AtRest) :
    Succeeding { l with running := true, runs := l.runs ++ [⟨false, .waiting⟩] }
      (h ++ [.started l.runs.length]) := by
  constructor
  · rintro i ⟨r, present, beating⟩
    rcases run?_start present with old | ⟨-, rfl⟩
    · exact absurd ⟨r, old, beating⟩ (rest.not_inBeat i)
    · cases beating
  · have quiet : ∀ j, own j (h ++ [.started l.runs.length]) = own j h := by
      intro j
      rw [own_append]
      exact List.append_nil _
    have early : own l.runs.length h = [] := recorded.early _ (Nat.le_refl _)
    rw [List.length_append, List.length_singleton, List.range_succ, List.flatMap_append]
    simp [quiet, early, ← succeeding.order, Happening.ofBeat]

theorem Succeeding.stop (succeeding : Succeeding l h) : Succeeding l.stop (h ++ [.stopped]) := by
  constructor
  · rintro i ⟨r, present, beating⟩
    obtain ⟨r₀, was, rfl⟩ := run?_of_stop present
    exact (succeeding.current i ⟨r₀, was, beating⟩).trans l.length_stop.symm
  · have quiet : ∀ j, own j (h ++ [.stopped]) = own j h := by
      intro j
      rw [own_append]
      exact List.append_nil _
    simp only [quiet, l.length_stop, ← succeeding.order, List.filter_append]
    exact List.append_nil _

theorem Succeeding.attempt (succeeding : Succeeding l h) (recorded : Recorded listeners l h)
    (unstopped : l.Unstopped) {step : Step} (rested : step = .start → l.running = false → l.AtRest) :
    Succeeding (l.attempt step) (h ++ l.happenings step) := by
  rw [Lifecycle.attempt, happenings]
  cases taken : l.step? step with
  | none => simpa using succeeding
  | some l' =>
    dsimp only [Option.getD_some]
    rcases step_cases taken with ⟨idle, shown, rfl⟩ | ⟨shown, rfl⟩ | ⟨j, loop⟩
    · rw [shown]
      exact succeeding.start recorded (rested (start_of_shown shown) idle)
    · rw [shown]
      exact succeeding.stop
    · exact succeeding.loop unstopped loop

structure Ranked (listeners : List Listener) (l : Lifecycle) (h : List Happening) : Prop where
  recorded : Recorded listeners l h
  unstopped : l.Unstopped
  begun : Begun l h

theorem Ranked.attempt (ranked : Ranked listeners l h) (step : Step) :
    Ranked listeners (l.attempt step) (h ++ l.happenings step) :=
  ⟨ranked.recorded.attempt step, unstopped_attempt ranked.recorded ranked.unstopped step,
    begun_attempt ranked.begun step⟩

theorem Ranked.play (ranked : Ranked listeners l h) (steps : List Step) :
    Ranked listeners (l.play steps) (h ++ l.history steps) := by
  induction steps generalizing l h with
  | nil => simpa [Lifecycle.play, history] using ranked
  | cons step rest ih =>
    rw [Lifecycle.play, history, ← List.append_assoc]
    exact ih (ranked.attempt step)

theorem Succeeding.play (succeeding : Succeeding l h) (ranked : Ranked listeners l h)
    {steps : List Step} (rested : l.StartsRested steps) :
    Succeeding (l.play steps) (h ++ l.history steps) := by
  induction steps generalizing l h with
  | nil => simpa [Lifecycle.play, history] using succeeding
  | cons step rest ih =>
    rw [Lifecycle.play, history, ← List.append_assoc]
    obtain ⟨now, later⟩ := rested
    exact ih (succeeding.attempt ranked.recorded ranked.unstopped now) (ranked.attempt step) later

theorem remains_nil {r : Run} (idle : inBeat r = false) : Remains listeners i r.phase [] := by
  obtain ⟨stopped, phase⟩ := r
  cases phase with
  | waiting | ended => rfl
  | beating | notifying => cases idle

abbrev RunBeat := Nat × Nat × Results

def wholeBeats (listeners : List Listener) (beats : List RunBeat) : List Happening :=
  beats.flatMap fun b => wholeBeat listeners b.1 b.2

theorem wholeBeats_own (i : Nat) (beats : List (Nat × Results)) :
    wholeBeats listeners (beats.map (i, ·)) = beats.flatMap (wholeBeat listeners i) := by
  rw [wholeBeats, List.flatMap_map]

theorem wholeBeats_range {n : Nat} {part : Nat → List Happening}
    (whole : ∀ i < n, ∃ beats : List (Nat × Results),
      part i = beats.flatMap (wholeBeat listeners i)) :
    ∃ beats, (List.range n).flatMap part = wholeBeats listeners beats := by
  induction n with
  | zero => exact ⟨[], rfl⟩
  | succ n ih =>
    obtain ⟨earlier, same⟩ := ih fun i inside => whole i (Nat.lt_succ_of_lt inside)
    obtain ⟨beats, last⟩ := whole n (Nat.lt_succ_self n)
    refine ⟨earlier ++ beats.map (n, ·), ?_⟩
    rw [List.range_succ, List.flatMap_append, same, List.flatMap_singleton, last,
      ← wholeBeats_own]
    exact List.flatMap_append.symm

/-- All runs together show whole beats but for what remains of that of the last run. -/
theorem Succeeding.whole (succeeding : Succeeding l h) (recorded : Recorded listeners l h) {r : Run}
    {rest : List Happening} (present : l.run? i = some r) (last : i + 1 = l.runs.length)
    (remains : Remains listeners i r.phase rest) :
    ∃ beats, h.filter Happening.ofBeat ++ rest = wholeBeats listeners beats := by
  have earlier : ∀ j < i, ∃ beats : List (Nat × Results),
      own j h = beats.flatMap (wholeBeat listeners j) := by
    intro j before
    have there : j < l.runs.length := by omega
    have found : l.run? j = some l.runs[j] := List.getElem?_eq_getElem there
    have idle : inBeat l.runs[j] = false := by
      by_contra beating
      have latest := succeeding.current j ⟨_, found, by simpa using beating⟩
      omega
    obtain ⟨beats, whole⟩ := recorded.whole j _ [] found (remains_nil idle)
    exact ⟨beats, by rw [← whole, List.append_nil]⟩
  obtain ⟨front, shown⟩ := wholeBeats_range earlier
  obtain ⟨beats, whole⟩ := recorded.whole i r rest present remains
  refine ⟨front ++ beats.map (i, ·), ?_⟩
  rw [succeeding.order, ← last, List.range_succ, List.flatMap_append, List.flatMap_singleton, shown,
    List.append_assoc, whole, ← wholeBeats_own]
  exact List.flatMap_append.symm

end HealthWatch.Lifecycle
