import HealthWatch.Heartbeat.Lifecycle

/-!
# The history of a heartbeat

`play` lets the caller and the loops of a heartbeat take steps in any order; a step that cannot be
taken changes nothing. `history` is what shows meanwhile: starts and stops, and the beats of each
run from their begin over every notification to their end. `step_cases` says all that a step can
do, and `turn_of_attempt` what it means to one run.
-/

namespace HealthWatch.Lifecycle

inductive Happening where
  | started (run : Nat)
  | stopped
  | began (run : Nat) (active : List String)
  | told (run : Nat) (delivery : Delivery)
  | completed (run : Nat)

namespace Happening

def ofRun (i : Nat) : Happening → Bool
  | .began j _ | .told j _ | .completed j => j == i
  | .started _ | .stopped => false

def isCompleted : Happening → Bool
  | .completed _ => true
  | _ => false

def delivery? : Happening → Option Delivery
  | .told _ delivery => some delivery
  | _ => none

end Happening

def shown? (l l' : Lifecycle) : Step → Option Happening
  | .start => some (.started l.runs.length)
  | .stop => some .stopped
  | .wake i active => if (l'.run? i).any inBeat then some (.began i active) else none
  | .deliver i => l'.desk.deliveries.getLast?.map (.told i)
  | .finish i => some (.completed i)
  | .quit _ | .collect .. => none

def attempt (l : Lifecycle) (step : Step) : Lifecycle :=
  (l.step? step).getD l

def happenings (l : Lifecycle) (step : Step) : List Happening :=
  match l.step? step with
  | some l' => (l.shown? l' step).toList
  | none => []

def play (l : Lifecycle) : List Step → Lifecycle
  | [] => l
  | step :: rest => (l.attempt step).play rest

def history (l : Lifecycle) : List Step → List Happening
  | [] => []
  | step :: rest => l.happenings step ++ (l.attempt step).history rest

def own (i : Nat) (h : List Happening) : List Happening :=
  h.filter (·.ofRun i)

theorem own_append (i : Nat) (h h' : List Happening) : own i (h ++ h') = own i h ++ own i h' :=
  List.filter_append ..

/-! ### What each step does -/

variable {l l' : Lifecycle} {i : Nat}

theorem start_some (h : l.step? .start = some l') :
    l.running = false ∧ l' = { l with running := true, runs := l.runs ++ [⟨false, .waiting⟩] } := by
  simp only [step?, start] at h
  split at h
  · cases h
  · rename_i idle
    exact ⟨by simpa using idle, (Option.some.inj h).symm⟩

theorem wake?_some {active : List String} (h : l.wake? i active = some l') :
    ∃ stopped, l.run? i = some ⟨stopped, .waiting⟩ ∧
      l' = l.setPhase i (if stopped then .ended else .beating active) := by
  obtain ⟨⟨stopped, phase⟩, present, h⟩ := Option.bind_eq_some_iff.mp h
  cases phase with
  | waiting => exact ⟨stopped, present, (Option.some.inj h).symm⟩
  | _ => cases h

theorem quit?_some (h : l.quit? i = some l') :
    l.run? i = some ⟨true, .waiting⟩ ∧ l' = l.setPhase i .ended := by
  obtain ⟨⟨stopped, phase⟩, present, h⟩ := Option.bind_eq_some_iff.mp h
  cases phase with
  | waiting =>
    cases stopped with
    | true => exact ⟨present, (Option.some.inj h).symm⟩
    | false => cases h
  | _ => cases h

theorem collect?_some {results : Results} (h : l.collect? i results = some l') :
    ∃ stopped, l.run? i = some ⟨stopped, .beating results.names⟩ ∧
      l' = l.setPhase i (.notifying (l.beats + 1) results l.listeners) := by
  obtain ⟨⟨stopped, phase⟩, present, h⟩ := Option.bind_eq_some_iff.mp h
  cases phase with
  | beating active =>
    dsimp only at h
    split at h
    · rename_i complete
      exact ⟨stopped, complete ▸ present, (Option.some.inj h).symm⟩
    · cases h
  | _ => cases h

theorem deliver?_some (h : l.deliver? i = some l') :
    ∃ stopped beat results next left,
      l.run? i = some ⟨stopped, .notifying beat results (next :: left)⟩ ∧
      l' = { l.setPhase i (.notifying beat results left) with
        desk := l.desk.notify beat results next } := by
  obtain ⟨⟨stopped, phase⟩, present, h⟩ := Option.bind_eq_some_iff.mp h
  cases phase with
  | notifying beat results left =>
    cases left with
    | nil => cases h
    | cons next left => exact ⟨stopped, beat, results, next, left, present, (Option.some.inj h).symm⟩
  | _ => cases h

theorem finish?_some (h : l.finish? i = some l') :
    ∃ stopped beat results, l.run? i = some ⟨stopped, .notifying beat results []⟩ ∧
      l' = { l.setPhase i .waiting with beats := l.beats + 1 } := by
  obtain ⟨⟨stopped, phase⟩, present, h⟩ := Option.bind_eq_some_iff.mp h
  cases phase with
  | notifying beat results left =>
    cases left with
    | nil => exact ⟨stopped, beat, results, present, (Option.some.inj h).symm⟩
    | cons next left => cases h
  | _ => cases h

/-! ### What a step means to one run -/

/-- How a step takes a run from one state to another, and what it shows of the beats of the run. -/
inductive Turn (listeners : List Listener) (i : Nat) : Run → List Happening → Run → Prop where
  | stay (r : Run) : Turn listeners i r [] r
  | halt (r : Run) : Turn listeners i r [] { r with stopped := true }
  | began (active : List String) :
    Turn listeners i ⟨false, .waiting⟩ [.began i active] ⟨false, .beating active⟩
  | ended : Turn listeners i ⟨true, .waiting⟩ [] ⟨true, .ended⟩
  | collected (stopped : Bool) (beat : Nat) (results : Results) :
    Turn listeners i ⟨stopped, .beating results.names⟩ []
      ⟨stopped, .notifying beat results listeners⟩
  | told (stopped : Bool) (beat : Nat) (results : Results) (next : Listener)
      (left : List Listener) :
    Turn listeners i ⟨stopped, .notifying beat results (next :: left)⟩
      [.told i ⟨next.name, beat, results⟩] ⟨stopped, .notifying beat results left⟩
  | completed (stopped : Bool) (beat : Nat) (results : Results) :
    Turn listeners i ⟨stopped, .notifying beat results []⟩ [.completed i] ⟨stopped, .waiting⟩

theorem run?_setPhase (l : Lifecycle) (i j : Nat) (phase : Phase) :
    (l.setPhase i phase).run? j =
      if i = j then (l.run? j).map fun r => { r with phase } else l.run? j := by
  rw [run?, setPhase, List.getElem?_modify]
  split <;> simp [run?]

theorem run?_setPhase_self {r : Run} (present : l.run? i = some r) (phase : Phase) :
    (l.setPhase i phase).run? i = some { r with phase } := by
  simp [run?_setPhase, present]

theorem run?_setPhase_other {j : Nat} (other : i ≠ j) (phase : Phase) :
    (l.setPhase i phase).run? j = l.run? j := by
  simp [run?_setPhase, other]

theorem length_setPhase (l : Lifecycle) (i : Nat) (phase : Phase) :
    (l.setPhase i phase).runs.length = l.runs.length :=
  List.length_modify ..

theorem run?_stop {r : Run} (present : l.run? i = some r) :
    l.stop.run? i = some { r with stopped := true } := by
  simp only [run?, stop, List.getElem?_map] at present ⊢
  rw [present]
  rfl

theorem shown?_wake {active : List String} {stopped : Bool}
    (present : l.run? i = some ⟨stopped, .waiting⟩) :
    l.shown? (l.setPhase i (if stopped then .ended else .beating active)) (.wake i active) =
      if stopped then none else some (.began i active) := by
  rw [shown?, run?_setPhase_self present]
  cases stopped <;> rfl

theorem ofRun_unique {e : Happening} {j : Nat} (ours : e.ofRun i = true) (theirs : e.ofRun j = true) :
    i = j := by
  cases e <;> simp_all [Happening.ofRun]

structure LoopStep (l l' : Lifecycle) (i : Nat) (shown : List Happening) : Prop where
  turn : ∃ r phase, l.run? i = some r ∧ l'.runs = (l.setPhase i phase).runs ∧
    Turn l.listeners i r shown { r with phase }
  running : l'.running = l.running
  listeners : l'.listeners = l.listeners
  beats : l'.beats = l.beats + shown.countP Happening.isCompleted
  told : l'.desk.deliveries = l.desk.deliveries ++ shown.filterMap Happening.delivery?
  own : ∀ e ∈ shown, e.ofRun i = true

theorem step_cases {step : Step} (taken : l.step? step = some l') :
    (l.running = false ∧ l.shown? l' step = some (.started l.runs.length) ∧
      l' = { l with running := true, runs := l.runs ++ [⟨false, .waiting⟩] }) ∨
    (l.shown? l' step = some .stopped ∧ l' = l.stop) ∨
    ∃ i, LoopStep l l' i (l.shown? l' step).toList := by
  cases step with
  | start =>
    obtain ⟨idle, same⟩ := start_some taken
    exact .inl ⟨idle, rfl, same⟩
  | stop => exact .inr (.inl ⟨rfl, (Option.some.inj taken).symm⟩)
  | wake i active =>
    obtain ⟨stopped, found, rfl⟩ := wake?_some taken
    rw [shown?_wake found]
    refine .inr (.inr ⟨i, ⟨_, _, found, rfl, ?_⟩, rfl, rfl, ?_, ?_, ?_⟩)
    · cases stopped with
      | true => exact .ended
      | false => exact .began active
    all_goals
      cases stopped <;> simp [setPhase, Happening.isCompleted, Happening.delivery?, Happening.ofRun]
  | quit i =>
    obtain ⟨found, rfl⟩ := quit?_some taken
    exact .inr (.inr ⟨i, ⟨_, _, found, rfl, .ended⟩, rfl, rfl, rfl, by simp [shown?, setPhase],
      by simp [shown?]⟩)
  | collect i results =>
    obtain ⟨stopped, found, rfl⟩ := collect?_some taken
    exact .inr (.inr ⟨i, ⟨_, _, found, rfl, .collected stopped _ results⟩, rfl, rfl, rfl,
      by simp [shown?, setPhase], by simp [shown?]⟩)
  | deliver i =>
    obtain ⟨stopped, beat, results, next, left, found, rfl⟩ := deliver?_some taken
    have shown : l.shown? { l.setPhase i (.notifying beat results left) with
        desk := l.desk.notify beat results next } (.deliver i) =
        some (.told i ⟨next.name, beat, results⟩) := by
      simp [shown?, Desk.notify]
    rw [shown]
    refine .inr (.inr ⟨i, ⟨_, _, found, rfl, .told stopped beat results next left⟩, rfl, rfl,
      ?_, ?_, ?_⟩) <;>
      simp [setPhase, Desk.notify, Happening.isCompleted, Happening.delivery?, Happening.ofRun]
  | finish i =>
    obtain ⟨stopped, beat, results, found, rfl⟩ := finish?_some taken
    refine .inr (.inr ⟨i, ⟨_, _, found, rfl, .completed stopped beat results⟩, rfl, rfl,
      ?_, ?_, ?_⟩) <;>
      simp [shown?, setPhase, Happening.isCompleted, Happening.delivery?, Happening.ofRun]

theorem LoopStep.inside {shown : List Happening} (loop : LoopStep l l' i shown) :
    i < l.runs.length := by
  obtain ⟨r, phase, found, -, -⟩ := loop.turn
  exact (List.getElem?_eq_some_iff.mp found).1

theorem LoopStep.own_other {j : Nat} {shown : List Happening} (loop : LoopStep l l' i shown)
    (other : i ≠ j) : Lifecycle.own j shown = [] := by
  refine List.filter_eq_nil_iff.mpr fun e member theirs => ?_
  exact other (ofRun_unique (loop.own e member) theirs)

theorem turn_of_step {step : Step} (taken : l.step? step = some l') {r : Run}
    (present : l.run? i = some r) :
    ∃ r', l'.run? i = some r' ∧
      Turn l.listeners i r (own i (l.shown? l' step).toList) r' := by
  rcases step_cases taken with ⟨-, shown, rfl⟩ | ⟨shown, rfl⟩ | ⟨j, loop⟩
  · rw [shown]
    have inside := (List.getElem?_eq_some_iff.mp present).1
    exact ⟨r, (List.getElem?_append_left inside).trans present, .stay r⟩
  · rw [shown]
    exact ⟨_, run?_stop present, .halt r⟩
  · obtain ⟨r₀, phase, found, runs, turn⟩ := loop.turn
    rw [run?, runs, ← run?]
    by_cases same : j = i
    · subst same
      obtain rfl := Option.some.inj (found.symm.trans present)
      have ours : own j (l.shown? l' step).toList = (l.shown? l' step).toList :=
        List.filter_eq_self.mpr loop.own
      exact ⟨_, run?_setPhase_self found phase, ours.symm ▸ turn⟩
    · rw [loop.own_other same]
      exact ⟨r, (run?_setPhase_other same phase).trans present, .stay r⟩

theorem turn_of_attempt (step : Step) {r : Run} (present : l.run? i = some r) :
    ∃ r', (l.attempt step).run? i = some r' ∧
      Turn l.listeners i r (own i (l.happenings step)) r' := by
  rw [attempt, happenings]
  cases taken : l.step? step with
  | none => exact ⟨r, present, .stay r⟩
  | some l' => exact turn_of_step taken present

end HealthWatch.Lifecycle
