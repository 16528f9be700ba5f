import HealthWatch.Proofs.Heartbeat.Beat

/-!
# The life of a heartbeat that waits

However a heartbeat is started and stopped and beats, nothing of this ever blocks, and how many
beats there are depends neither on the listeners nor on the checks (`live?_beats`).
-/

namespace HealthWatch.Heartbeat

/-- How many beats there are when a heartbeat that runs or not lives so. -/
def beatsOf : Bool → List Occurrence → Nat
  | _, [] => 0
  | _, .start :: rest => beatsOf true rest
  | _, .stop :: rest => beatsOf false rest
  | running, .beat cut _ :: rest => running.toNat + beatsOf (running && cut.isNone) rest
  | running, .meanwhile _ :: rest => beatsOf running rest

/-! ### One occurrence -/

variable {h h' : Heartbeat}

theorem start_ok (started : h.start = .ok h') : h.life.running = false ∧ h' = { h with
    life := { h.life with running := true, runs := h.life.runs ++ [⟨false, .waiting⟩] }
    workers := ⟨h.settings.poolSize.toNat, .running⟩ } := by
  have idle := idle_of_start started
  refine ⟨idle, ?_⟩
  unfold start Lifecycle.start Workers.start at started
  rw [if_neg (by simp [idle])] at started
  split at started
  · cases started
  · exact (Except.ok.inj started).symm

def after (h : Heartbeat) : Occurrence → Heartbeat
  | .start => h.start.toOption.getD h
  | .stop => h.stop
  | .beat cut takes => if h.isRunning then (h.afterBeat cut).linger takes else h
  | .meanwhile change => { h with session := change h.session }

def brings (h : Heartbeat) : Occurrence → List Beaten
  | .beat cut _ => if h.isRunning then [⟨h, h.heard cut⟩] else []
  | _ => []

theorem occur?_waits (waits : h.Waits) (o : Occurrence) :
    h.occur? o = some (h.after o, h.brings o) := by
  cases o with
  | start => rfl
  | stop => rfl
  | meanwhile change => rfl
  | beat cut takes =>
    simp only [occur?, after, brings]
    split
    · rename_i running
      rw [beatUntil?_waiting running (waits running)]
      simp only [Option.bind_eq_bind, Option.bind_some, finish?_toldAll (waits running)]
      rfl
    · rfl

theorem isRunning_stop (h : Heartbeat) : h.stop.isRunning = false := by
  unfold stop
  split
  · rfl
  · rename_i idle
    exact Bool.eq_false_iff.mpr idle

theorem waits_after (waits : h.Waits) (o : Occurrence) : (h.after o).Waits := by
  cases o with
  | start =>
    simp only [after]
    cases started : h.start with
    | error fault => exact waits
    | ok h' =>
      obtain ⟨-, rfl⟩ := start_ok started
      intro _
      simp [Except.toOption, Lifecycle.run?, lastRun]
  | stop =>
    intro running
    have idle : h.stop.isRunning = true := running
    rw [isRunning_stop] at idle
    cases idle
  | beat cut takes =>
    simp only [after]
    split
    · rename_i running
      exact waits_afterBeat (waits running) cut
    · exact waits
  | meanwhile change => exact waits

structure Later (h h' : Heartbeat) (k : Nat) : Prop where
  settings : h'.settings = h.settings
  roster : h'.roster = h.roster
  listeners : h'.life.listeners = h.life.listeners
  beats : h'.beatCount = h.beatCount + k

theorem Later.trans {h'' : Heartbeat} {k k' : Nat} (first : Later h h' k)
    (second : Later h' h'' k') : Later h h'' (k + k') where
  settings := second.settings.trans first.settings
  roster := second.roster.trans first.roster
  listeners := second.listeners.trans first.listeners
  beats := by rw [second.beats, first.beats, Nat.add_assoc]

theorem later_after (h : Heartbeat) (o : Occurrence) : Later h (h.after o) (h.brings o).length := by
  cases o with
  | start =>
    simp only [after]
    cases started : h.start with
    | error fault => exact ⟨rfl, rfl, rfl, rfl⟩
    | ok h' =>
      obtain ⟨-, rfl⟩ := start_ok started
      exact ⟨rfl, rfl, rfl, rfl⟩
  | stop =>
    simp only [after, stop]
    split <;> exact ⟨rfl, rfl, rfl, rfl⟩
  | beat cut takes =>
    simp only [after, brings]
    split
    · cases cut <;> exact ⟨rfl, rfl, rfl, rfl⟩
    · exact ⟨rfl, rfl, rfl, rfl⟩
  | meanwhile change => exact ⟨rfl, rfl, rfl, rfl⟩

theorem beatsOf_cons (valid : h.settings.validate = .ok ()) (o : Occurrence)
    (rest : List Occurrence) :
    beatsOf h.isRunning (o :: rest) = (h.brings o).length + beatsOf (h.after o).isRunning rest := by
  cases o with
  | start =>
    have running : (h.after .start).isRunning = true := by
      simp only [after]
      cases idle : h.life.running with
      | true =>
        rw [start_running idle]
        exact idle
      | false =>
        rw [start_idle idle valid]
        rfl
    rw [running]
    exact (Nat.zero_add _).symm
  | stop =>
    have idle : (h.after .stop).isRunning = false := h.isRunning_stop
    rw [idle]
    exact (Nat.zero_add _).symm
  | beat cut takes =>
    simp only [beatsOf, after, brings]
    cases running : h.isRunning with
    | true =>
      have goes := h.isRunning_afterBeat cut
      rw [running] at goes
      rw [if_pos rfl, if_pos rfl, ← goes]
      rfl
    | false =>
      simp [running]
  | meanwhile change => exact (Nat.zero_add _).symm

/-! ### All of them -/

/-- Nothing blocks, and every beat is one of the same heartbeat and counted. -/
theorem live?_beats (valid : h.settings.validate = .ok ()) (waits : h.Waits)
    (occurrences : List Occurrence) :
    ∃ final beats, h.live? occurrences = some (final, beats) ∧ final.Waits ∧
      beats.length = beatsOf h.isRunning occurrences ∧ Later h final beats.length ∧
      ∀ k b, beats[k]? = some b → Later h b.before k ∧ ∃ cut, b.beat = b.before.heard cut := by
  induction occurrences generalizing h with
  | nil => exact ⟨h, [], rfl, waits, rfl, ⟨rfl, rfl, rfl, rfl⟩, by simp⟩
  | cons o rest ih =>
    have step := h.later_after o
    obtain ⟨final, beats, lived, last, count, later, each⟩ :=
      ih (step.settings ▸ valid) (waits_after waits o)
    refine ⟨final, h.brings o ++ beats, ?_, last, ?_, ?_, ?_⟩
    · rw [live?, occur?_waits waits, Option.bind_some, lived]
      rfl
    · rw [List.length_append, count, beatsOf_cons valid]
    · rw [List.length_append]
      exact step.trans later
    · intro k b present
      rcases Nat.lt_or_ge k (h.brings o).length with now | later
      · rw [List.getElem?_append_left now] at present
        cases o with
        | beat cut takes =>
          simp only [brings] at now present
          split at present
          · rename_i running
            rw [if_pos running] at now
            obtain rfl : k = 0 := by simpa using now
            obtain rfl := Option.some.inj present
            exact ⟨⟨rfl, rfl, rfl, rfl⟩, cut, rfl⟩
          · cases present
        | _ => cases present
      · rw [List.getElem?_append_right later] at present
        obtain ⟨since, cut, heard⟩ := each _ b present
        have place : (h.brings o).length + (k - (h.brings o).length) = k := by omega
        exact ⟨place ▸ step.trans since, cut, heard⟩

end HealthWatch.Heartbeat
