import HealthWatch.Proofs.Heartbeat.Beats
import HealthWatch.Proofs.Heartbeat.Start

/-!
# Safety of the lifecycle

`lifecycle_safe` collects what holds of a heartbeat after any calls of start and stop and any steps
of its loops between them.
-/

namespace HealthWatch.Lifecycle

theorem stop_idle {listeners : List Listener} {l : Lifecycle} {h : List Happening}
    (recorded : Recorded listeners l h) (idle : l.running = false) : l.stop = l := by
  have stopped : l.runs.map (fun r => { r with stopped := true }) = l.runs := by
    refine (List.map_congr_left fun r member => ?_).trans (List.map_id _)
    obtain ⟨i, present⟩ := List.mem_iff_getElem?.mp member
    cases signal : r.stopped with
    | true => rw [← signal]; rfl
    | false =>
      rw [recorded.signalled i r present signal] at idle
      cases idle
  obtain ⟨_, running, _, _, _⟩ := l
  rw [stop, stopped]
  subst idle
  rfl

/-- The results of a fan-out, cut short or not, end the beat that has begun its checks. -/
theorem collect?_complete {l : Lifecycle} {i : Nat} {stopped : Bool} {results : Results}
    (present : l.run? i = some ⟨stopped, .beating results.names⟩) :
    (l.collect? i results).isSome = true := by
  simp [collect?, present]

theorem notifying_goes_on {l : Lifecycle} {i beat : Nat} {stopped : Bool} {results : Results}
    {left : List Listener} (present : l.run? i = some ⟨stopped, .notifying beat results left⟩) :
    (l.deliver? i).isSome = true ∨ (l.finish? i).isSome = true := by
  cases left with
  | nil => exact .inr (by simp [finish?, present])
  | cons next left => exact .inl (by simp [deliver?, present])

theorem attempt_start_running {l : Lifecycle} (running : l.running = true) :
    l.attempt .start = l := by
  rw [attempt, step?, start, if_pos running]
  rfl

theorem lifecycle_safe (listeners : List Listener) (steps : List Step) :
    let l := (idle listeners).play steps
    let h := (idle listeners).history steps
    -- A start succeeds if and only if the heartbeat is not running, and changes nothing otherwise.
    (∀ hb : Heartbeat, hb.life = l → hb.settings.validate = .ok () →
      (l.running = false ↔ ∃ hb', hb.start = .ok hb') ∧
      (l.running = true → hb.start = .error .alreadyRunning)) ∧
    (l.running = true → l.attempt .start = l) ∧
    -- A stop is harmless when nothing runs, and so is a second one.
    (∀ hb : Heartbeat, hb.life = l → hb.stop.life = l.stop ∧ hb.stop.stop = hb.stop ∧
      (l.running = false → hb.stop = hb)) ∧
    (l.running = false → l.stop = l) ∧
    -- It runs if and only if it was not stopped since it was started last.
    (l.running = true ↔ ∃ i since, .started i :: since <:+ h ∧ .stopped ∉ since) ∧
    -- No run begins a beat before it is started.
    (∀ i active before, before ++ [.began i active] <+: h → .started i ∈ before) ∧
    -- The beats of a run are whole, but for what remains of the last one: each listener hears once
    -- of one verdict on every check that was active.
    (∀ i r rest, l.run? i = some r → Remains listeners i r.phase rest →
      ∃ beats : List (Nat × Results), own i h ++ rest = beats.flatMap (wholeBeat listeners i)) ∧
    -- A run that is told to end begins no further beat, and shows no more than what remains of the
    -- beat that it is in.
    (∀ i r more, l.run? i = some r →
      ∃ r', (l.stop.play more).run? i = some r' ∧
        (∀ active, .began i active ∉ l.stop.history more) ∧
        ∀ rest, Remains listeners i r'.phase rest →
          Remains listeners i r.phase (own i (l.stop.history more) ++ rest)) ∧
    -- A beat in flight is never stuck, also when the pool of its checks is shut down.
    (∀ i stopped (r : Roster) s workers timeout time,
      l.run? i = some ⟨stopped, .beating ((r.active s.world).map (·.1))⟩ →
      (l.collect? i (r.fanOut s workers timeout).2).isSome = true ∧
      (l.collect? i (r.fanOutCut s workers timeout time).2).isSome = true) ∧
    (∀ i stopped beat results left, l.run? i = some ⟨stopped, .notifying beat results left⟩ →
      (l.deliver? i).isSome = true ∨ (l.finish? i).isSome = true) ∧
    -- The count of beats is that of the completed ones, and the listeners got what the history says.
    l.beats = h.countP Happening.isCompleted ∧
    l.desk.deliveries = h.filterMap Happening.delivery? := by
  intro l h
  have recorded : Recorded listeners l h := recorded_idle.play steps
  clear_value l h
  refine ⟨?_, ?_, ?_, stop_idle recorded, recorded.running, recorded.order, recorded.whole, ?_, ?_,
    ?_, recorded.beats, recorded.told⟩
  · rintro hb rfl valid
    constructor
    · constructor
      · intro idle
        exact ⟨_, Heartbeat.start_idle idle valid⟩
      · rintro ⟨hb', started⟩
        exact Heartbeat.idle_of_start started
    · exact Heartbeat.start_running
  · exact attempt_start_running
  · rintro hb rfl
    refine ⟨?_, hb.stop_stop, Heartbeat.stop_idle⟩
    cases running : hb.life.running with
    | true => exact Heartbeat.stop_running running
    | false => rw [Heartbeat.stop_idle running, stop_idle recorded running]
  · intro i r more present
    obtain ⟨r', last, silent, conserved⟩ :=
      stopped_play (l := l.stop) more (run?_stop present) rfl
    rw [show l.stop.listeners = listeners from recorded.hearers] at conserved
    exact ⟨r', last, silent, conserved⟩
  · intro i stopped r s workers timeout time present
    constructor
    · rw [← r.names_fanOut s workers timeout] at present
      exact collect?_complete present
    · rw [← r.names_fanOutCut s workers timeout time] at present
      exact collect?_complete present
  · intro i stopped beat results left present
    exact notifying_goes_on present

/-- The caller stops the heartbeat in the middle of a beat and starts it again at once. -/
def restarted (results : Results) : List Step :=
  [.start, .collect 0 results, .wake 1 ["db"], .deliver 0, .finish 0, .wake 0 ["db"]]

theorem lifecycle_safe_restarted :
    let l := (idle [.latest]).play [.start, .wake 0 ["db"]]
    let more := restarted (.ofList [("db", .healthy)])
    (l.stop.play more).run? 0 = some ⟨true, .ended⟩ ∧
      Remains [.latest] 0 (.beating ["db"]) (own 0 (l.stop.history more)) := by
  intro l more
  obtain ⟨-, -, -, -, -, -, -, stops, -⟩ := lifecycle_safe [.latest] [.start, .wake 0 ["db"]]
  obtain ⟨r, last, -, conserved⟩ := stops 0 ⟨false, .beating ["db"]⟩ more rfl
  have ended : (l.stop.play more).run? 0 = some ⟨true, .ended⟩ := rfl
  obtain rfl := Option.some.inj (last.symm.trans ended)
  have shown := conserved [] rfl
  rw [List.append_nil] at shown
  exact ⟨ended, shown⟩

end HealthWatch.Lifecycle
