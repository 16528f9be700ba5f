import HealthWatch.Proofs.Fanout.Reports
import HealthWatch.Proofs.Heartbeat.Life
import HealthWatch.Proofs.Heartbeat.Notices
import HealthWatch.Proofs.Heartbeat.Selection

/-!
# Listeners do not disturb each other

A heartbeat with its listeners muted takes the same steps and delivers the same results
(`step?_mute`, `live?_mute`), so what a listener does shows in its own reports only.
`listeners_isolated` says so, and that every beat reaches all listeners.
-/

namespace HealthWatch

/-! ### Muted listeners -/

/-- The listener of the same name that takes every beat well. -/
def Listener.mute (l : Listener) : Listener :=
  .custom l.name fun _ _ => .done

def Phase.mute : Phase → Phase
  | .notifying beat results left => .notifying beat results (left.map .mute)
  | phase => phase

def Run.mute (r : Run) : Run :=
  { r with phase := r.phase.mute }

namespace Desk

def mute (d : Desk) : Desk :=
  { d with latest := none, reports := [] }

theorem notifyAll_mute (d : Desk) (beat : Nat) (results : Results) (hearers : List Listener) :
    d.mute.notifyAll beat results (hearers.map .mute) = (d.notifyAll beat results hearers).mute := by
  induction hearers generalizing d with
  | nil => rfl
  | cons next left ih => exact ih (d.notify beat results next)

end Desk

namespace Lifecycle

def mute (l : Lifecycle) : Lifecycle where
  listeners := l.listeners.map .mute
  running := l.running
  runs := l.runs.map .mute
  beats := l.beats
  desk := l.desk.mute

variable (l l' : Lifecycle)

theorem run?_mute (i : Nat) : l.mute.run? i = (l.run? i).map Run.mute :=
  List.getElem?_map ..

theorem setPhase_mute (i : Nat) (phase : Phase) :
    l.mute.setPhase i phase.mute = (l.setPhase i phase).mute := by
  have same : (l.runs.map Run.mute).modify i (fun r => { r with phase := phase.mute }) =
      (l.runs.modify i fun r => { r with phase }).map Run.mute := by
    refine List.ext_getElem? fun j => ?_
    simp only [List.getElem?_map, List.getElem?_modify]
    cases l.runs[j]? with
    | none => simp
    | some r => simp only [Option.map_some]; split <;> rfl
  unfold setPhase mute
  rw [same]

theorem stop_mute : l.mute.stop = l.stop.mute := by
  simp [stop, mute, Run.mute, Function.comp_def]

theorem wake?_mute (i : Nat) (active : List String) :
    l.mute.wake? i active = (l.wake? i active).map mute := by
  unfold wake?
  rw [run?_mute]
  rcases l.run? i with _ | ⟨stopped, phase⟩
  · rfl
  · cases phase with
    | waiting =>
      cases stopped with
      | false => exact congrArg some (setPhase_mute l i (.beating active))
      | true => exact congrArg some (setPhase_mute l i .ended)
    | _ => rfl

theorem quit?_mute (i : Nat) : l.mute.quit? i = (l.quit? i).map mute := by
  unfold quit?
  rw [run?_mute]
  rcases l.run? i with _ | ⟨stopped, phase⟩
  · rfl
  · cases phase with
    | waiting =>
      cases stopped with
      | false => rfl
      | true => exact congrArg some (setPhase_mute l i .ended)
    | _ => rfl

theorem collect?_mute (i : Nat) (results : Results) :
    l.mute.collect? i results = (l.collect? i results).map mute := by
  unfold collect?
  rw [run?_mute]
  rcases l.run? i with _ | ⟨stopped, phase⟩
  · rfl
  · cases phase with
    | beating active =>
      simp only [Option.map_some, Run.mute, Phase.mute, Option.bind_eq_bind, Option.bind_some]
      split
      · exact congrArg some (setPhase_mute l i (.notifying (l.beats + 1) results l.listeners))
      · rfl
    | _ => rfl

theorem deliver?_mute (i : Nat) : l.mute.deliver? i = (l.deliver? i).map mute := by
  unfold deliver?
  rw [run?_mute]
  rcases l.run? i with _ | ⟨stopped, phase⟩
  · rfl
  · cases phase with
    | notifying beat results left =>
      cases left with
      | nil => rfl
      | cons next left =>
        refine congrArg some ?_
        have moved := setPhase_mute l i (.notifying beat results left)
        exact congrArg (fun m : Lifecycle =>
          { m with desk := (l.desk.notify beat results next).mute }) moved
    | _ => rfl

theorem finish?_mute (i : Nat) : l.mute.finish? i = (l.finish? i).map mute := by
  unfold finish?
  rw [run?_mute]
  rcases l.run? i with _ | ⟨stopped, phase⟩
  · rfl
  · cases phase with
    | notifying beat results left =>
      cases left with
      | nil =>
        exact congrArg (fun m : Lifecycle => some { m with beats := l.beats + 1 })
          (setPhase_mute l i .waiting)
      | cons next left => rfl
    | _ => rfl

theorem start_mute : l.mute.step? .start = (l.step? .start).map mute := by
  have same : l.mute.running = l.running := rfl
  simp only [step?, start, same]
  split
  · rfl
  · simp [Except.toOption, mute, Run.mute, Phase.mute]

/-- The listeners have no influence on the steps. -/
theorem step?_mute (step : Step) : l.mute.step? step = (l.step? step).map mute := by
  cases step with
  | start => exact l.start_mute
  | stop => exact congrArg some l.stop_mute
  | wake i active => exact l.wake?_mute i active
  | quit i => exact l.quit?_mute i
  | collect i results => exact l.collect?_mute i results
  | deliver i => exact l.deliver?_mute i
  | finish i => exact l.finish?_mute i

theorem shown?_mute (step : Step) : l.mute.shown? l'.mute step = l.shown? l' step := by
  cases step with
  | start => simp [shown?, mute]
  | wake i active =>
    have same : ∀ r, inBeat (Run.mute r) = inBeat r := by
      rintro ⟨stopped, phase⟩
      cases phase <;> rfl
    simp only [shown?, run?_mute, Option.any_map, same]
  | _ => rfl

theorem attempt_mute (step : Step) : l.mute.attempt step = (l.attempt step).mute := by
  unfold attempt
  rw [step?_mute]
  cases l.step? step <;> rfl

theorem happenings_mute (step : Step) : l.mute.happenings step = l.happenings step := by
  unfold happenings
  rw [step?_mute]
  cases l.step? step with
  | none => rfl
  | some l' => exact congrArg Option.toList (l.shown?_mute l' step)

theorem play_mute (steps : List Step) :
    l.mute.play steps = (l.play steps).mute ∧ l.mute.history steps = l.history steps := by
  induction steps generalizing l with
  | nil => exact ⟨rfl, rfl⟩
  | cons step rest ih =>
    obtain ⟨played, shown⟩ := ih (l.attempt step)
    simp only [play, history, attempt_mute, happenings_mute, played, shown, and_self]

theorem idle_mute {listeners others : List Listener}
    (names : others.map Listener.name = listeners.map Listener.name) :
    (idle others).mute = (idle listeners).mute := by
  have same : others.map Listener.mute = listeners.map Listener.mute := by
    have renamed := congrArg (List.map fun name => Listener.custom name fun _ _ => .done) names
    rwa [List.map_map, List.map_map] at renamed
  simp [idle, mute, same]

end Lifecycle

namespace Heartbeat

open Lifecycle

variable {h : Heartbeat}

def mute (h : Heartbeat) : Heartbeat :=
  { h with life := h.life.mute }

/-- What the listeners do not make themselves. -/
def Beaten.seen (b : Beaten) : Session × Results × List Delivery :=
  (b.before.session, b.beat.results, b.beat.deliveries)

theorem start_mute (h : Heartbeat) : h.mute.after .start = (h.after .start).mute := by
  have same : h.mute.life.running = h.life.running := rfl
  simp only [after, start, Lifecycle.start, same]
  split
  · rfl
  · unfold Workers.start
    have size : h.mute.settings = h.settings := rfl
    rw [size]
    split
    · rfl
    · simp [Except.toOption, bind, Except.bind, pure, Except.pure, mute, Lifecycle.mute, Run.mute,
        Phase.mute]

theorem lastRun_mute (h : Heartbeat) : h.mute.lastRun = h.lastRun :=
  lastRun_congr (List.length_map ..)

theorem afterBeat_mute (h : Heartbeat) (cut : Option Nat) :
    h.mute.afterBeat cut = (h.afterBeat cut).mute := by
  have told := h.life.desk.notifyAll_mute (h.life.beats + 1) (h.round cut).2 h.life.listeners
  unfold afterBeat
  rw [lastRun_mute]
  cases cut with
  | none =>
    have moved := h.life.setPhase_mute h.lastRun .waiting
    exact congrArg₂ (fun (m : Lifecycle) (d : Desk) => { h with
      life := { m with beats := h.life.beats + 1, desk := d }
      session := (h.round none).1 : Heartbeat }) moved told
  | some time =>
    have moved : h.life.mute.stop.setPhase h.lastRun .ended =
        (h.life.stop.setPhase h.lastRun .ended).mute := by
      rw [Lifecycle.stop_mute]
      exact h.life.stop.setPhase_mute h.lastRun .ended
    exact congrArg₂ (fun (m : Lifecycle) (d : Desk) => { h with
      life := { m with beats := h.life.beats + 1, desk := d }
      workers := h.workers.shutdown
      session := (h.round (some time)).1 : Heartbeat }) moved told

theorem linger_mute (h : Heartbeat) (takes : Nat → Nat) :
    h.mute.linger takes = (h.linger takes).mute := by
  have count : h.mute.life.listeners.length = h.life.listeners.length := List.length_map ..
  unfold linger
  rw [count]
  rfl

theorem after_mute (h : Heartbeat) (o : Occurrence) : h.mute.after o = (h.after o).mute := by
  have same : h.mute.isRunning = h.isRunning := rfl
  cases o with
  | start => exact h.start_mute
  | stop =>
    simp only [after, stop, same]
    split
    · exact congrArg (fun m : Lifecycle => { h with
        life := m
        workers := h.workers.shutdown
        session := h.session.shutdown h.workers : Heartbeat }) h.life.stop_mute
    · rfl
  | beat cut takes =>
    simp only [after, same]
    split
    · rw [afterBeat_mute, linger_mute]
    · rfl
  | meanwhile change => rfl

theorem seen_mute (h : Heartbeat) (o : Occurrence) :
    (h.mute.brings o).map Beaten.seen = (h.brings o).map Beaten.seen := by
  have same : h.mute.isRunning = h.isRunning := rfl
  cases o with
  | beat cut takes =>
    have told : (h.mute.heard cut).deliveries = (h.heard cut).deliveries := List.map_map
    simp only [brings, same]
    split
    · exact congrArg (fun d => [(h.session, (h.round cut).2, d)]) told
    · rfl
  | _ => rfl

theorem waits_mute (waits : h.Waits) : h.mute.Waits := by
  intro running
  rw [lastRun_mute]
  exact (h.life.run?_mute h.lastRun).trans (congrArg (Option.map Run.mute) (waits running))

/-- The listeners have no influence on what happens. -/
theorem live?_mute (waits : h.Waits) (occurrences : List Occurrence) :
    (h.mute.live? occurrences).map (fun a => (a.1, a.2.map Beaten.seen)) =
      (h.live? occurrences).map fun a => (a.1.mute, a.2.map Beaten.seen) := by
  induction occurrences generalizing h with
  | nil => rfl
  | cons o rest ih =>
    have later := ih (waits_after waits o)
    -- Muting commutes with what happens first, so the rest is again that of a muted heartbeat.
    rw [← after_mute] at later
    rw [live?, live?, occur?_waits waits, occur?_waits (waits_mute waits)]
    simp only [Option.bind_some, Option.map_map, Function.comp_def, List.map_append, seen_mute]
    have joined := congrArg (Option.map fun b : Heartbeat × List (Session × Results × List Delivery) =>
      (b.1, (h.brings o).map Beaten.seen ++ b.2)) later
    simpa only [Option.map_map, Function.comp_def] using joined

/-! ### All of it -/

theorem warns_round (h : Heartbeat) (cut : Option Nat) : h.session.Warns (h.round cut).1 := by
  cases cut with
  | none => exact h.roster.warns_fanOut ..
  | some time => exact h.roster.warns_fanOutCut ..

/-- The errors of a beat are those of the listeners that do not take it well. -/
theorem errors_heard (h : Heartbeat) (cut : Option Nat) :
    (h.heard cut).reports.filter Event.isError =
      h.life.listeners.filterMap fun l => l.failure? (h.life.beats + 1) (h.round cut).2 := by
  obtain ⟨added, same, warnings⟩ := h.warns_round cut
  have quiet : (added.map (·.2)).filter Event.isError = [] := by
    refine List.filter_eq_nil_iff.mpr fun e member => ?_
    obtain ⟨report, reported, rfl⟩ := List.mem_map.mp member
    simp [Event.isError, warnings report reported]
  unfold heard
  dsimp only
  rw [same, List.drop_left, List.filter_append, quiet, List.nil_append]
  induction h.life.listeners with
  | nil => rfl
  | cons l rest ih =>
    rw [List.flatMap_cons, List.filter_append, ih, Listener.errors_reports, List.filterMap_cons]
    cases l.failure? (h.life.beats + 1) (h.round cut).2 <;> rfl

theorem created_idle {source : Roster} {settings : Settings} {series : Nat}
    {listeners : List Listener} {session : Session} {reports : List Event}
    (created : create source settings series listeners session = .ok (h, reports)) :
    h.settings.validate = .ok () ∧ h.life = idle listeners ∧ h.isRunning = false ∧ h.Waits := by
  obtain ⟨valid, rfl, -⟩ := create_ok created
  exact ⟨valid, rfl, rfl, nofun⟩

/-- Muted, heartbeats with listeners of the same names are the same. -/
theorem created_mute {source : Roster} {settings : Settings} {series : Nat}
    {listeners others : List Listener} {session : Session} {reports : List Event}
    (created : create source settings series listeners session = .ok (h, reports))
    (names : others.map Listener.name = listeners.map Listener.name) :
    ∃ h', create source settings series others session = .ok (h', reports) ∧ h'.mute = h.mute := by
  obtain ⟨valid, rfl, rfl⟩ := create_ok created
  refine ⟨_, (create_eq ..).trans (by rw [valid]; rfl), ?_⟩
  exact congrArg (fun m : Lifecycle => (⟨settings, effective source settings series, m,
    ⟨settings.poolSize.toNat, .down⟩, session⟩ : Heartbeat)) (idle_mute names)

/-- Whatever the listeners of a heartbeat respond to its beats:

* However starts, stops and the loops interleave, as long as no two runs notify at the same time,
  all deliveries and errors are those of notices with the numbers 1, 2, 3 and so on, each told to
  every listener once and in order, but for the rest of the last one.
* The beats of every run are whole.
* All this is the same for listeners that respond otherwise.
* On the clock no beat is missed, each brings one verdict on every active check to every listener,
  and its errors are the failures of its listeners. Other responses lead to the same beats. -/
theorem listeners_isolated {source : Roster} {settings : Settings} {series : Nat}
    {listeners : List Listener} {session : Session} {h : Heartbeat} {reports : List Event}
    (created : create source settings series listeners session = .ok (h, reports)) :
    (∀ steps : List Step, (∀ done, done <+: steps → ((idle listeners).play done).Alone) →
      ∃ past current,
        past.map Notice.number = List.range' 1 ((idle listeners).play steps).beats ∧
        (∀ n ∈ past, n.told = listeners) ∧
        (∀ n, current = some n →
          n.number = ((idle listeners).play steps).beats + 1 ∧ n.told <+: listeners) ∧
        ((idle listeners).play steps).desk.deliveries =
          (past ++ current.toList).flatMap Notice.deliveries ∧
        ((idle listeners).play steps).desk.reports.filter Event.isError =
          (past ++ current.toList).flatMap Notice.errors) ∧
    (∀ steps i r rest, ((idle listeners).play steps).run? i = some r →
      Remains listeners i r.phase rest → ∃ beats : List (Nat × Results),
        own i ((idle listeners).history steps) ++ rest = beats.flatMap (wholeBeat listeners i)) ∧
    (∀ others, others.map Listener.name = listeners.map Listener.name → ∀ steps,
      (idle others).history steps = (idle listeners).history steps ∧
      ((idle others).play steps).beats = ((idle listeners).play steps).beats ∧
      ((idle others).play steps).desk.deliveries =
        ((idle listeners).play steps).desk.deliveries) ∧
    ∀ occurrences, ∃ final beats, h.live? occurrences = some (final, beats) ∧
      beats.length = beatsOf false occurrences ∧ final.beatCount = beats.length ∧
      (∀ k b, beats[k]? = some b → b.before.beatCount = k ∧
        b.beat.results.names = (h.roster.active b.before.session.world).map (·.1) ∧
        b.beat.deliveries = listeners.map (fun l => ⟨l.name, k + 1, b.beat.results⟩) ∧
        b.beat.reports.filter Event.isError =
          listeners.filterMap fun l => l.failure? (k + 1) b.beat.results) ∧
      ∀ others, others.map Listener.name = listeners.map Listener.name → ∃ h' final' beats',
        create source settings series others session = .ok (h', reports) ∧
        h'.live? occurrences = some (final', beats') ∧
        beats'.map Beaten.seen = beats.map Beaten.seen ∧
        final'.session = final.session ∧ final'.beatCount = final.beatCount := by
  obtain ⟨valid, life, idles, waits⟩ := created_idle created
  refine ⟨fun steps alone => ?_, fun steps => (recorded_idle.play steps).whole, ?_, ?_⟩
  · obtain ⟨past, current, noted⟩ := noted_idle.play steps alone
    exact ⟨past, current, noted.numbers, noted.complete, fun n => noted.under_way,
      noted.deliveries, noted.errors⟩
  · intro others names steps
    -- Muted, both play the same, and muting hides none of what is compared.
    obtain ⟨played, shown⟩ := (idle others).play_mute steps
    obtain ⟨played', shown'⟩ := (idle listeners).play_mute steps
    rw [idle_mute names] at played shown
    have same := played.symm.trans played'
    exact ⟨shown.symm.trans shown', (congrArg Lifecycle.beats same :),
      (congrArg (fun l => l.desk.deliveries) same :)⟩
  · intro occurrences
    obtain ⟨final, beats, lived, -, count, later, each⟩ := live?_beats valid waits occurrences
    have fresh : h.beatCount = 0 := by rw [beatCount, life]; rfl
    refine ⟨final, beats, lived, idles ▸ count, ?_, ?_, ?_⟩
    · rw [later.beats, fresh, Nat.zero_add]
    · intro k b present
      obtain ⟨since, cut, heard⟩ := each k b present
      have number : b.before.life.beats = k := by
        have counted := since.beats
        rwa [fresh, Nat.zero_add] at counted
      have hearers : b.before.life.listeners = listeners := by rw [since.listeners, life]; rfl
      have names := b.before.names_round cut
      have errors := b.before.errors_heard cut
      rw [number, hearers] at errors
      rw [since.roster] at names
      rw [heard]
      refine ⟨number, names, ?_, errors⟩
      unfold Heartbeat.heard
      rw [hearers, number]
    · intro others names
      obtain ⟨h', recreated, silenced⟩ := created_mute created names
      obtain ⟨valid', -, -, waits'⟩ := created_idle recreated
      obtain ⟨final', beats', lived', -⟩ := live?_beats valid' waits' occurrences
      have same := live?_mute waits occurrences
      rw [← silenced, live?_mute waits', lived, lived'] at same
      obtain ⟨ends, seen⟩ := Prod.mk.inj (Option.some.inj same)
      exact ⟨h', final', beats', recreated, lived', seen, (congrArg Heartbeat.session ends :),
        (congrArg Heartbeat.beatCount ends :)⟩

/-- One listener of each kind: it fails, it is content, it panics. -/
def unlike : List Listener :=
  [.custom "fails" fun _ _ => .failed "full", .latest, .custom "panics" fun _ _ => .panicked]

def pinging : Roster :=
  ⟨.ofList [("db", .leaf ⟨"db", fun _ => .finish 10 (.verdict .healthy), true⟩)]⟩

/-- The second run begins its checks before the first one, which was stopped, has told its
listeners. -/
def overtaking (results : Results) : List Step :=
  [.start, .wake 0 ["db"], .stop, .start, .wake 1 ["db"], .collect 0 results, .deliver 0, .deliver 0,
    .deliver 0, .finish 0, .collect 1 results, .deliver 1]

theorem listeners_isolated_unlike :
    let steps := overtaking (.ofList [("db", .healthy)])
    (∃ (past : List Notice) (current : Option Notice),
      past.map Notice.number = [1] ∧ (∀ n ∈ past, n.told = unlike) ∧
      ((idle unlike).play steps).desk.reports.filter Event.isError =
        (past ++ current.toList).flatMap Notice.errors) ∧
    ∃ h reports final beats, create pinging .default 0 unlike .fresh = .ok (h, reports) ∧
      h.live? [.start, .beat none fun _ => 0, .stop, .start, .beat (some 5) fun i => i] =
        some (final, beats) ∧
      beats.length = 2 ∧ ∀ b, beats[1]? = some b →
        b.beat.deliveries.map (fun d => (d.listener, d.beat)) =
          [("fails", 2), ("latest", 2), ("panics", 2)] ∧
        b.beat.reports.filter Event.isError = [.listenerFailed 2 "full", .listenerPanicked 2] := by
  intro steps
  have created : create pinging .default 0 unlike .fresh = .ok _ := rfl
  obtain ⟨told, -, -, lives⟩ := listeners_isolated created
  constructor
  · have alone : ∀ done, done <+: steps → ((idle unlike).play done).Alone := by
      intro done begins
      have each : ∀ n < 13, ((idle unlike).play (steps.take n)).Alone := by decide +kernel
      have short := begins.length_le
      rw [List.prefix_iff_eq_take.mp begins]
      exact each _ (Nat.lt_succ_of_le short)
    obtain ⟨past, current, numbers, complete, -, -, errors⟩ := told steps alone
    exact ⟨past, current, numbers, complete, errors⟩
  · obtain ⟨final, beats, lived, count, -, each, -⟩ := lives
      [.start, .beat none fun _ => 0, .stop, .start, .beat (some 5) fun i => i]
    refine ⟨_, _, final, beats, created, lived, count, fun b present => ?_⟩
    obtain ⟨-, -, deliveries, errors⟩ := each 1 b present
    refine ⟨?_, errors⟩
    rw [deliveries]
    rfl

end Heartbeat

end HealthWatch
