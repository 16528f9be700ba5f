import HealthWatch.Heartbeat.Basic
import HealthWatch.Proofs.Fanout.Waiting
import HealthWatch.Proofs.Heartbeat.History

/-!
# The beats of a heartbeat

However the caller and the loops interleave, the history of every run is a list of whole beats and
perhaps one that is still going on, and a stopped run only brings the latter to its end.
`Recorded` relates a state to its history; every step keeps it.
-/

namespace HealthWatch.Lifecycle

def notification (i beat : Nat) (results : Results) (hearers : List Listener) : List Happening :=
  hearers.map fun next => .told i ⟨next.name, beat, results⟩

/-- All that shows of a beat: the checks begin, every listener hears of one verdict on each of them,
and the beat is completed. -/
def wholeBeat (listeners : List Listener) (i : Nat) (b : Nat × Results) : List Happening :=
  .began i b.2.names :: (notification i b.1 b.2 listeners ++ [.completed i])

def Remains (listeners : List Listener) (i : Nat) : Phase → List Happening → Prop
  | .waiting, rest | .ended, rest => rest = []
  | .beating active, rest =>
    ∃ beat results, results.names = active ∧
      rest = notification i beat results listeners ++ [.completed i]
  | .notifying beat results left, rest =>
    rest = notification i beat results left ++ [.completed i]

variable {listeners : List Listener} {i : Nat} {l l' : Lifecycle} {h : List Happening}

/-! ### One run -/

/-- A turn brings a beat forward or begins one. -/
theorem remains_of_turn {r r' : Run} {shown rest : List Happening}
    (turn : Turn listeners i r shown r') (remains : Remains listeners i r'.phase rest) :
    (r = ⟨false, .waiting⟩ ∧ ∃ b, shown ++ rest = wholeBeat listeners i b) ∨
      Remains listeners i r.phase (shown ++ rest) := by
  cases turn with
  | stay | halt => exact .inr remains
  | began active =>
    obtain ⟨beat, results, rfl, rfl⟩ := remains
    exact .inl ⟨rfl, (beat, results), rfl⟩
  | ended => exact .inr remains
  | collected stopped beat results => exact .inr ⟨beat, results, rfl, remains⟩
  | told stopped beat results next left =>
    refine .inr ?_
    rw [show rest = notification i beat results left ++ [.completed i] from remains]
    rfl
  | completed stopped beat results =>
    refine .inr ?_
    rw [show rest = [] from remains]
    rfl

theorem halted_of_turn {r r' : Run} {shown : List Happening} (turn : Turn listeners i r shown r')
    (stopped : r.stopped = true) :
    r'.stopped = true ∧ ∀ active, .began i active ∉ shown := by
  cases turn <;> simp_all

theorem mem_own {active : List String} : .began i active ∈ own i h ↔ .began i active ∈ h := by
  simp [own, Happening.ofRun]

theorem listeners_attempt (l : Lifecycle) (step : Step) :
    (l.attempt step).listeners = l.listeners := by
  rw [attempt]
  cases taken : l.step? step with
  | none => rfl
  | some l' =>
    rcases step_cases taken with ⟨-, -, rfl⟩ | ⟨-, rfl⟩ | ⟨i, loop⟩
    · rfl
    · rfl
    · exact loop.listeners

/-- A run that is told to end begins no beat any more, and what remained to show of its beat is what
shows meanwhile and what remains then. -/
theorem stopped_play (more : List Step) {r : Run} (present : l.run? i = some r)
    (stopped : r.stopped = true) :
    ∃ r', (l.play more).run? i = some r' ∧ (∀ active, .began i active ∉ l.history more) ∧
      ∀ rest, Remains l.listeners i r'.phase rest →
        Remains l.listeners i r.phase (own i (l.history more) ++ rest) := by
  -- The sign to end is never taken back, so no step of the rest can begin a beat of this run.
  induction more generalizing l r with
  | nil => exact ⟨r, present, by simp [history], fun rest remains => remains⟩
  | cons step more ih =>
    obtain ⟨next, kept, turn⟩ := turn_of_attempt step present
    obtain ⟨halted, quiet⟩ := halted_of_turn turn stopped
    obtain ⟨r', last, silent, conserved⟩ := ih kept halted
    rw [listeners_attempt] at conserved
    refine ⟨r', last, ?_, ?_⟩
    · intro active member
      rcases List.mem_append.mp member with now | later
      · exact quiet active (mem_own.mpr now)
      · exact silent active later
    · intro rest remains
      rw [history, own_append, List.append_assoc]
      rcases remains_of_turn turn (conserved rest remains) with ⟨fresh, -⟩ | before
      · simp [fresh] at stopped
      · exact before

/-! ### The whole history -/

structure Recorded (listeners : List Listener) (l : Lifecycle) (h : List Happening) : Prop where
  hearers : l.listeners = listeners
  /-- Only a running heartbeat has a run that is not told to end. -/
  signalled : ∀ i r, l.run? i = some r → r.stopped = false → l.running = true
  /-- It runs if it was started after it was stopped last. -/
  running : l.running = true ↔ ∃ i since, .started i :: since <:+ h ∧ .stopped ∉ since
  beats : l.beats = h.countP Happening.isCompleted
  told : l.desk.deliveries = h.filterMap Happening.delivery?
  started : ∀ i < l.runs.length, .started i ∈ h
  /-- No beat belongs to a run that is still to be started. -/
  early : ∀ i, l.runs.length ≤ i → own i h = []
  /-- A run begins beats only after its start. -/
  order : ∀ i active before, before ++ [.began i active] <+: h → .started i ∈ before
  /-- With what remains to show of its last beat, a run has shown whole beats only. -/
  whole : ∀ i r rest, l.run? i = some r → Remains listeners i r.phase rest →
    ∃ beats : List (Nat × Results), own i h ++ rest = beats.flatMap (wholeBeat listeners i)

theorem since_append {shown : List Happening} (unstarted : ∀ i, .started i ∉ shown)
    (unstopped : .stopped ∉ shown) :
    (∃ i since, .started i :: since <:+ h ++ shown ∧ .stopped ∉ since) ↔
      ∃ i since, .started i :: since <:+ h ∧ .stopped ∉ since := by
  constructor
  · rintro ⟨i, since, ending, clear⟩
    rcases List.suffix_or_suffix_of_suffix ending (List.suffix_append h shown) with
      inside | ⟨front, same⟩
    · exact absurd (inside.subset List.mem_cons_self) (unstarted i)
    · cases front with
      | nil =>
        have opened : shown = .started i :: since := same
        exact absurd (opened ▸ List.mem_cons_self) (unstarted i)
      | cons head front =>
        obtain ⟨rfl, rfl⟩ := List.cons.inj same
        obtain ⟨older, split⟩ := ending
        have same : older ++ .started i :: front = h :=
          List.append_cancel_right (by simpa using split)
        exact ⟨i, front, ⟨older, same⟩, fun member => clear (List.mem_append_left _ member)⟩
  · rintro ⟨i, since, ⟨front, rfl⟩, clear⟩
    refine ⟨i, since ++ shown, ⟨front, by simp⟩, fun member => ?_⟩
    rcases List.mem_append.mp member with old | new
    · exact clear old
    · exact unstopped new

theorem recorded_idle : Recorded listeners (idle listeners) [] where
  hearers := rfl
  signalled := by simp [idle, run?]
  running := by simp [idle]
  beats := rfl
  told := rfl
  started := by simp [idle]
  early := by simp [own]
  order := by simp
  whole := by simp [idle, run?]

/-- A run that goes on keeps to whole beats. -/
theorem Recorded.whole_step (recorded : Recorded listeners l h) {step : Step}
    (taken : l.step? step = some l') (old : i < l.runs.length) {r : Run}
    (present : l'.run? i = some r) {rest : List Happening}
    (remains : Remains listeners i r.phase rest) :
    ∃ beats : List (Nat × Results),
      own i (h ++ (l.shown? l' step).toList) ++ rest = beats.flatMap (wholeBeat listeners i) := by
  obtain ⟨r₀, was⟩ : ∃ r₀, l.run? i = some r₀ := ⟨_, List.getElem?_eq_getElem old⟩
  obtain ⟨r', same, turn⟩ := turn_of_step taken was
  obtain rfl := Option.some.inj (same.symm.trans present)
  rw [recorded.hearers] at turn
  rw [own_append, List.append_assoc]
  -- A run that waits has nothing left to show, so a beat that begins is a further whole one.
  rcases remains_of_turn turn remains with ⟨fresh, b, begun⟩ | before
  · have waiting : Remains listeners i r₀.phase [] := by
      rw [fresh]
      rfl
    obtain ⟨beats, whole⟩ := recorded.whole i r₀ [] was waiting
    refine ⟨beats ++ [b], ?_⟩
    rw [begun, List.flatMap_append, ← whole, List.append_nil, List.flatMap_singleton]
  · exact recorded.whole i r₀ _ was before

theorem Recorded.order_append (recorded : Recorded listeners l h) {shown : List Happening}
    (few : shown.length ≤ 1) (inside : ∀ i active, .began i active ∈ shown → i < l.runs.length)
    (i : Nat) (active : List String) (before : List Happening)
    (opens : before ++ [.began i active] <+: h ++ shown) : .started i ∈ before := by
  match shown, few with
  | [], _ => exact recorded.order i active before (by simpa using opens)
  | [e], _ =>
    rcases List.prefix_concat_iff.mp opens with whole | within
    · obtain ⟨rfl, last⟩ := List.append_inj' whole rfl
      have began : e = .began i active := (List.singleton_inj.mp last).symm
      exact recorded.started i (inside i active (began ▸ List.mem_singleton_self _))
    · exact recorded.order i active before within

theorem Recorded.start (recorded : Recorded listeners l h) (taken : l.step? .start = some l') :
    Recorded listeners l' (h ++ [.started l.runs.length]) := by
  have kept := fun i => recorded.whole_step (i := i) taken
  obtain ⟨-, rfl⟩ := start_some taken
  refine
    { hearers := recorded.hearers
      signalled := fun _ _ _ _ => rfl
      running := ?_
      beats := ?_
      told := ?_
      started := ?_
      early := ?_
      order := recorded.order_append (Nat.le_refl _) (by simp)
      whole := ?_ }
  · exact ⟨fun _ => ⟨_, [], List.suffix_append .., by simp⟩, fun _ => rfl⟩
  · simpa [Happening.isCompleted] using recorded.beats
  · simp [recorded.told, Happening.delivery?]
  · intro i inside
    rw [List.length_append, List.length_singleton] at inside
    by_cases old : i < l.runs.length
    · exact List.mem_append_left _ (recorded.started i old)
    · have fresh : i = l.runs.length := by omega
      exact List.mem_append_right _ (fresh ▸ List.mem_singleton_self _)
  · intro i outside
    rw [List.length_append, List.length_singleton] at outside
    rw [own_append, recorded.early i (by omega)]
    rfl
  · intro i r rest present remains
    by_cases old : i < l.runs.length
    · exact kept i old present remains
    · have fresh : r = ⟨false, .waiting⟩ := by
        rw [run?, List.getElem?_append_right (Nat.le_of_not_lt old)] at present
        exact (List.mem_singleton.mp (List.mem_of_getElem? present))
      obtain rfl : rest = [] := by simpa [fresh, Remains] using remains
      refine ⟨[], ?_⟩
      rw [own_append, recorded.early i (Nat.le_of_not_lt old)]
      rfl

theorem stopped_stop {r : Run} (present : l.stop.run? i = some r) : r.stopped = true := by
  simp only [run?, stop, List.getElem?_map, Option.map_eq_some_iff] at present
  obtain ⟨-, -, rfl⟩ := present
  rfl

theorem length_stop (l : Lifecycle) : l.stop.runs.length = l.runs.length :=
  List.length_map ..

theorem Recorded.stop (recorded : Recorded listeners l h) :
    Recorded listeners l.stop (h ++ [.stopped]) where
  hearers := recorded.hearers
  signalled := by
    intro i r present going
    rw [stopped_stop present] at going
    cases going
  running := by
    refine ⟨fun running => (Bool.false_ne_true running).elim, ?_⟩
    rintro ⟨i, since, ending, unstopped⟩
    rcases List.suffix_concat_iff.mp ending with empty | ⟨front, last, -⟩
    · cases empty
    · cases front with
      | nil => simp at last
      | cons head front =>
        obtain ⟨-, rfl⟩ := List.cons.inj last
        simp at unstopped
  beats := by simpa [Happening.isCompleted, Lifecycle.stop] using recorded.beats
  told := by simp [recorded.told, Happening.delivery?, Lifecycle.stop]
  started := fun i inside =>
    List.mem_append_left _ (recorded.started i (l.length_stop ▸ inside))
  early := by
    intro i outside
    rw [own_append, recorded.early i (l.length_stop ▸ outside)]
    rfl
  order := recorded.order_append (Nat.le_refl _) (by simp)
  whole := by
    intro i r rest present remains
    have inside := (List.getElem?_eq_some_iff.mp present).1
    have taken : l.step? .stop = some l.stop := rfl
    exact recorded.whole_step taken (l.length_stop ▸ inside) present remains

theorem Recorded.loop (recorded : Recorded listeners l h) {step : Step}
    (taken : l.step? step = some l') (loop : LoopStep l l' i (l.shown? l' step).toList) :
    Recorded listeners l' (h ++ (l.shown? l' step).toList) := by
  have kept := fun j => recorded.whole_step (i := j) taken
  have few : (l.shown? l' step).toList.length ≤ 1 := by cases l.shown? l' step <;> simp
  generalize (l.shown? l' step).toList = shown at loop kept few ⊢
  obtain ⟨-, phase, -, runs, -⟩ := loop.turn
  have length : l'.runs.length = l.runs.length := by rw [runs, length_setPhase]
  have quiet : ∀ e, e.ofRun i = false → e ∉ shown := by
    intro e other member
    rw [loop.own e member] at other
    cases other
  refine
    { hearers := loop.listeners.trans recorded.hearers
      signalled := ?_
      running := ?_
      beats := ?_
      told := ?_
      started := ?_
      early := ?_
      order := recorded.order_append few ?_
      whole := ?_ }
  · intro j r present going
    rw [run?, runs, ← run?, run?_setPhase] at present
    rw [loop.running]
    split at present
    · obtain ⟨r₀, was, rfl⟩ := Option.map_eq_some_iff.mp present
      exact recorded.signalled j r₀ was going
    · exact recorded.signalled j r present going
  · rw [loop.running, recorded.running]
    exact (since_append (fun j => quiet (.started j) rfl) (quiet .stopped rfl)).symm
  · rw [loop.beats, recorded.beats, List.countP_append]
  · rw [loop.told, recorded.told, List.filterMap_append]
  · intro j inside
    exact List.mem_append_left _ (recorded.started j (length ▸ inside))
  · intro j outside
    have inside := loop.inside
    have other : i ≠ j := by omega
    rw [own_append, recorded.early j (length ▸ outside), loop.own_other other]
    rfl
  · intro j active member
    have same := ofRun_unique (loop.own _ member) (BEq.rfl (a := j))
    exact same ▸ loop.inside
  · intro j r rest present remains
    have inside := (List.getElem?_eq_some_iff.mp present).1
    exact kept j (length ▸ inside) present remains

theorem Recorded.attempt (recorded : Recorded listeners l h) (step : Step) :
    Recorded listeners (l.attempt step) (h ++ l.happenings step) := by
  rw [Lifecycle.attempt, happenings]
  cases taken : l.step? step with
  | none => simpa using recorded
  | some l' =>
    dsimp only [Option.getD_some]
    rcases step_cases taken with ⟨idle, shown, same⟩ | ⟨shown, same⟩ | ⟨i, loop⟩
    · rw [shown]
      have started : l.step? .start = some l' := by
        simp [step?, Lifecycle.start, idle, same, Except.toOption]
      exact recorded.start started
    · rw [shown, same]
      exact recorded.stop
    · exact recorded.loop taken loop

theorem Recorded.play (recorded : Recorded listeners l h) (steps : List Step) :
    Recorded listeners (l.play steps) (h ++ l.history steps) := by
  induction steps generalizing l h with
  | nil => simpa [Lifecycle.play, history] using recorded
  | cons step rest ih =>
    rw [Lifecycle.play, history, ← List.append_assoc]
    exact ih (recorded.attempt step)

end HealthWatch.Lifecycle
