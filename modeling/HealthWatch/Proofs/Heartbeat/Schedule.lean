import HealthWatch.Proofs.Evaluation.Places
import HealthWatch.Proofs.Heartbeat.Beat

/-!
# The schedule of a run

A run waits, beats, and waits again, among listeners that take their time and checks that change
meanwhile. Each beat begins one pause after the end of the one before it, however long that was.
-/

namespace HealthWatch.Heartbeat

/-! ### What a beat keeps -/

structure Kept (h h' : Heartbeat) : Prop where
  settings : h'.settings = h.settings
  listeners : h'.life.listeners = h.life.listeners

theorem Kept.trans {h h' h'' : Heartbeat} (first : Kept h h') (second : Kept h' h'') : Kept h h'' :=
  ⟨second.settings.trans first.settings, second.listeners.trans first.listeners⟩

theorem kept_afterBeat (h : Heartbeat) (cut : Option Nat) : Kept h (h.afterBeat cut) := by
  cases cut <;> exact ⟨rfl, rfl⟩

theorem kept_toldAll (h : Heartbeat) (cut : Option Nat) : Kept h (h.toldAll cut) := by
  cases cut <;> exact ⟨rfl, rfl⟩

variable {h : Heartbeat}

/-! ### The time that a beat takes -/

def listening (h : Heartbeat) (takes : Nat → Nat) : Nat :=
  (List.range h.life.listeners.length).foldr (fun i rest => takes i + rest) 0

theorem Kept.listening {h h' : Heartbeat} (kept : Kept h h') (takes : Nat → Nat) :
    h'.listening takes = h.listening takes := by
  rw [Heartbeat.listening, kept.listeners, Heartbeat.listening]

theorem now_advance (s : Session) (ms : Nat) : (s.advance ms).now = s.now + ms := rfl

theorem now_linger (h : Heartbeat) (takes : Nat → Nat) :
    (h.linger takes).session.now = h.session.now + h.listening takes := by
  rw [linger, listening]
  generalize h.session = s
  generalize List.range h.life.listeners.length = hearers
  induction hearers generalizing s with
  | nil => rfl
  | cons i rest ih =>
    rw [List.foldl_cons, ih, now_advance, List.foldr_cons, Nat.add_assoc]

theorem listening_eq_zero {takes : Nat → Nat} (immediate : ∀ i, takes i = 0) (h : Heartbeat) :
    h.listening takes = 0 := by
  rw [listening]
  induction List.range h.life.listeners.length with
  | nil => rfl
  | cons i rest ih => rw [List.foldr_cons, ih, immediate]

theorem now_round (h : Heartbeat) (cut : Option Nat) :
    h.session.now ≤ (h.round cut).1.now ∧
      (h.round cut).1.now ≤ h.session.now + h.settings.timeout.toNat := by
  cases cut with
  | none => exact ⟨Roster.le_now_fanOut .., Roster.now_fanOut_le ..⟩
  | some time => exact ⟨Roster.le_now_fanOutCut .., Roster.now_fanOutCut_le ..⟩

/-- A beat within the time limit for its checks, whose listeners take so long. -/
structure Span.Within (a : Span) (timeout listening : Nat) : Prop where
  collected : a.begun ≤ a.collected ∧ a.collected ≤ a.begun + timeout
  told : a.told = a.collected + listening

theorem timedBeat?_waiting (running : h.isRunning = true)
    (waiting : h.life.run? h.lastRun = some ⟨false, .waiting⟩) (around : Surroundings) (k : Nat) :
    ∃ h' span, h.timedBeat? around k = some (h', span) ∧ Kept h h' ∧ Waits h' ∧
      h'.isRunning = (around.stop? k).isNone ∧ h'.session.now = span.told ∧
      span.begun = h.session.now ∧
      span.Within h.settings.timeout.toNat (h.listening (around.takes k)) := by
  have finished := finish?_toldAll waiting (around.stop? k) (around.takes k)
  have told := now_linger (h.toldAll (around.stop? k)) (around.takes k)
  have counted := now_linger (h.afterBeat (around.stop? k)) (around.takes k)
  rw [(h.kept_toldAll _).listening] at told
  rw [(h.kept_afterBeat _).listening] at counted
  refine ⟨(h.afterBeat (around.stop? k)).linger (around.takes k),
    ⟨h.session.now, (h.round (around.stop? k)).1.now,
      ((h.toldAll (around.stop? k)).linger (around.takes k)).session.now⟩, ?_,
    (h.kept_afterBeat _).trans ⟨rfl, rfl⟩, waits_afterBeat waiting _, ?_, counted.trans told.symm,
    rfl, h.now_round _, told⟩
  · rw [timedBeat?, beatUntil?_waiting running waiting]
    simp only [Option.bind_eq_bind, Option.bind_some, finished]
    rfl
  · exact (h.isRunning_afterBeat _).trans (by rw [running, Bool.true_and])

/-! ### The beats of a run -/

/-- Beats from that of number `k` on, of which the first is due at a time and each other one a
period after the end of the one before it. -/
inductive Paced (period timeout : Nat) (listening : Nat → Nat) : Nat → Nat → List Span → Prop where
  | ended (due k : Nat) : Paced period timeout listening due k []
  | beat {k : Nat} {a : Span} {later : List Span} (within : a.Within timeout (listening k))
      (next : Paced period timeout listening (a.told + period) (k + 1) later) :
      Paced period timeout listening a.begun k (a :: later)

namespace Paced

variable {period timeout due k : Nat} {listening : Nat → Nat} {spans : List Span}

theorem first (paced : Paced period timeout listening due k spans) {a : Span}
    (present : spans[0]? = some a) : a.begun = due := by
  cases paced with
  | ended => cases present
  | beat within next =>
    obtain rfl := Option.some.inj present
    rfl

theorem within (paced : Paced period timeout listening due k spans) {j : Nat} {a : Span}
    (present : spans[j]? = some a) : a.Within timeout (listening (k + j)) := by
  induction paced generalizing j with
  | ended => cases present
  | beat within next ih =>
    cases j with
    | zero =>
      obtain rfl := Option.some.inj present
      exact within
    | succ j =>
      have later := ih (j := j) present
      rwa [Nat.add_right_comm] at later

theorem pause (paced : Paced period timeout listening due k spans) {j : Nat} {a b : Span}
    (present : spans[j]? = some a) (following : spans[j + 1]? = some b) :
    b.begun = a.told + period := by
  induction paced generalizing j with
  | ended => cases present
  | beat within next ih =>
    cases j with
    | zero =>
      obtain rfl := Option.some.inj present
      exact next.first following
    | succ j => exact ih present following

theorem due_le (paced : Paced period timeout listening due k spans) :
    ∀ a ∈ spans, due ≤ a.begun := by
  induction paced with
  | ended => simp
  | beat within next ih =>
    intro b member
    rcases List.mem_cons.mp member with rfl | later
    · exact Nat.le_refl _
    · have after := ih b later
      have collected := within.collected
      have told := within.told
      omega

theorem apart (paced : Paced period timeout listening due k spans) (positive : 0 < period) :
    spans.Pairwise fun a b => a.told < b.begun := by
  induction paced with
  | ended => exact List.Pairwise.nil
  | beat within next ih =>
    refine List.pairwise_cons.mpr ⟨fun b member => ?_, ih⟩
    have after := next.due_le b member
    omega

end Paced

theorem beats?_paced (around : Surroundings) (waits : Waits h) (n k : Nat) :
    ∃ spans, beats? around n k h = some spans ∧
      Paced h.settings.period.toNat h.settings.timeout.toNat (fun k => h.listening (around.takes k))
        (h.session.now + (h.pause k).toNat) k spans ∧
      (h.isRunning = true → ∀ j < n, (∀ i < j, around.stop? (k + i) = none) → j < spans.length) := by
  induction n generalizing h k with
  | zero => exact ⟨[], rfl, .ended .., fun _ _ inside => absurd inside (Nat.not_lt_zero _)⟩
  | succ n ih =>
    rw [beats?]
    by_cases running : h.isRunning = true
    · have asleep : Kept h (h.sleep around k) := ⟨rfl, rfl⟩
      obtain ⟨h', a, beaten, kept, rest, goes, now, begun, within⟩ :=
        timedBeat?_waiting (h := h.sleep around k) running (waits running) around k
      obtain ⟨later, went, paced, complete⟩ := ih rest (k + 1)
      have same := asleep.trans kept
      -- The next beat is due a period after the end of this one, whatever this one took.
      have due : a.begun = h.session.now + (h.pause k).toNat := begun
      simp only [now, pause, same.settings, same.listening] at paced
      refine ⟨a :: later, ?_, due ▸ .beat within paced, ?_⟩
      · rw [if_pos running, beaten]
        simp only [Option.bind_eq_bind, Option.bind_some, went]
        rfl
      · intro _ j inside unstopped
        cases j with
        | zero => exact Nat.zero_lt_succ _
        | succ j =>
          have going : h'.isRunning = true := by
            rw [goes, show around.stop? k = none from unstopped 0 (Nat.zero_lt_succ j)]
            rfl
          have earlier : ∀ i < j, around.stop? (k + 1 + i) = none := by
            intro i before
            rw [Nat.add_right_comm]
            exact unstopped (i + 1) (Nat.succ_lt_succ before)
          exact Nat.succ_lt_succ (complete going j (Nat.lt_of_succ_lt_succ inside) earlier)
    · rw [if_neg running]
      exact ⟨[], rfl, .ended .., fun goes => absurd goes running⟩

theorem waits_of_start {h₀ : Heartbeat} (valid : h₀.settings.validate = .ok ())
    (started : h₀.start = .ok h) : h.settings = h₀.settings ∧ h.isRunning = true ∧ Waits h := by
  rw [start_idle (idle_of_start started) valid] at started
  obtain rfl := Except.ok.inj started
  refine ⟨rfl, rfl, fun _ => ?_⟩
  simp [Lifecycle.run?, lastRun]

/-- Each beat of a run begins a fixed time after the end of the one before it. -/
theorem fixed_delay {h₀ h : Heartbeat} (valid : h₀.settings.validate = .ok ())
    (started : h₀.start = .ok h) (around : Surroundings) (n : Nat) :
    ∃ spans, beats? around n 0 h = some spans ∧
      -- A beat takes place unless the run is stopped in an earlier one.
      (∀ j < n, (∀ i < j, around.stop? i = none) → j < spans.length) ∧
      (∀ a, spans[0]? = some a → a.begun = h.session.now + h.settings.initialDelay.toNat) ∧
      (∀ j a b, spans[j]? = some a → spans[j + 1]? = some b →
        b.begun = a.told + h.settings.period.toNat) ∧
      spans.Pairwise (fun a b => a.told < b.begun) ∧
      (∀ j a, spans[j]? = some a →
        a.begun ≤ a.collected ∧ a.collected ≤ a.begun + h.settings.timeout.toNat ∧
        a.told = a.collected + h.listening (around.takes j)) ∧
      ((∀ j i, around.takes j i = 0) → ∀ j a b, spans[j]? = some a → spans[j + 1]? = some b →
        a.begun + h.settings.period.toNat ≤ b.begun ∧
        b.begun ≤ a.begun + h.settings.period.toNat + h.settings.timeout.toNat) := by
  obtain ⟨settings, running, waits⟩ := waits_of_start valid started
  obtain ⟨spans, beaten, paced, complete⟩ := beats?_paced around waits n 0
  have positive : 0 < h.settings.period.toNat :=
    settings ▸ (Settings.positive_of_valid valid).1
  simp only [Nat.zero_add] at complete
  have within : ∀ (j : Nat) (a : Span), spans[j]? = some a →
      a.Within h.settings.timeout.toNat (h.listening (around.takes j)) := by
    intro j a present
    have span := paced.within present
    rwa [Nat.zero_add] at span
  refine ⟨spans, beaten, complete running, fun a => paced.first, fun j a b => paced.pause,
    paced.apart positive, ?_, ?_⟩
  · intro j a present
    obtain ⟨⟨late, early⟩, told⟩ := within j a present
    exact ⟨late, early, told⟩
  · intro immediate j a b present following
    have next := paced.pause present following
    obtain ⟨⟨late, early⟩, told⟩ := within j a present
    have silent := listening_eq_zero (immediate j) h
    omega

def hanging : Heartbeat where
  settings := { Settings.default with initialDelay := 5, period := 100, timeout := 50 }
  roster := ⟨.ofList [("hangs", .leaf ⟨"hangs", fun _ => .hang, true⟩)]⟩
  life := .idle [.latest]
  workers := ⟨4, .down⟩
  session := .fresh

/-- A slow listener, and a stop in the second beat. -/
def slow : Surroundings := ⟨fun _ s => s, fun _ _ => 7, fun k => if k = 1 then some 170 else none⟩

theorem fixed_delay_hanging : hanging.settings.validate = .ok () ∧
    ∃ h spans a b, hanging.start = .ok h ∧ beats? slow 2 0 h = some spans ∧
      spans[0]? = some a ∧ spans[1]? = some b ∧
      a.begun = 5 ∧ a.collected ≤ 55 ∧ a.told = a.collected + 7 ∧ b.begun = a.told + 100 := by
  have valid : hanging.settings.validate = .ok () := rfl
  have started : hanging.start = .ok _ := start_idle rfl valid
  obtain ⟨spans, beaten, complete, first, pause, -, within, -⟩ := fixed_delay valid started slow 2
  have second : 1 < spans.length := complete 1 (by omega) fun i before => by
    obtain rfl : i = 0 := by omega
    rfl
  have present : spans[0]? = some spans[0] := List.getElem?_eq_getElem _
  have following : spans[1]? = some spans[1] := List.getElem?_eq_getElem second
  obtain ⟨-, early, told⟩ := within 0 _ present
  have begun := first _ present
  refine ⟨valid, _, spans, _, _, started, beaten, present, following, begun, ?_, told,
    pause 0 _ _ present following⟩
  rw [begun] at early
  exact early

end HealthWatch.Heartbeat
