import HealthWatch.Heartbeat.Clock
import HealthWatch.Proofs.Fanout.Waiting
import HealthWatch.Proofs.Heartbeat.Beats
import HealthWatch.Proofs.Heartbeat.Start

/-!
# One beat

A beat of a waiting heartbeat takes many steps of its `Lifecycle`. `beatUntil?_waiting` says what
they come to: `heard` is what the beat brings, and `afterBeat` is the heartbeat that it leaves.
-/

namespace HealthWatch

/-! ### Listeners one after another -/

def Listener.reports (l : Listener) (beat : Nat) (results : Results) : List Event :=
  (match l with
    | .logging => beatReport results
    | _ => []) ++ Desk.responseReport beat (l.response beat results)

namespace Desk

def notifyAll (d : Desk) (beat : Nat) (results : Results) (hearers : List Listener) : Desk :=
  hearers.foldl (fun d l => d.notify beat results l) d

variable (d : Desk) (beat : Nat) (results : Results) (hearers : List Listener)

theorem deliveries_notifyAll :
    (d.notifyAll beat results hearers).deliveries =
      d.deliveries ++ hearers.map fun l => ⟨l.name, beat, results⟩ := by
  induction hearers generalizing d with
  | nil => simp [notifyAll]
  | cons next left ih =>
    refine (ih (d.notify beat results next)).trans ?_
    simp [notify]

theorem reports_notifyAll :
    (d.notifyAll beat results hearers).reports =
      d.reports ++ hearers.flatMap fun l => l.reports beat results := by
  induction hearers generalizing d with
  | nil => simp [notifyAll]
  | cons next left ih =>
    refine (ih (d.notify beat results next)).trans ?_
    cases next <;> simp [notify, Listener.reports]

end Desk

namespace Lifecycle

variable {l : Lifecycle} {i : Nat}

theorem setPhase_setPhase (l : Lifecycle) (i : Nat) (first second : Phase) :
    (l.setPhase i first).setPhase i second = l.setPhase i second := by
  simp [setPhase, List.modify_modify_eq, Function.comp_def]

theorem setPhase_same {r : Run} (present : l.run? i = some r) : l.setPhase i r.phase = l := by
  have same : l.runs.modify i (fun r' => { r' with phase := r.phase }) = l.runs := by
    refine List.ext_getElem? fun j => ?_
    rw [List.getElem?_modify]
    split
    · rename_i here
      subst here
      rw [show l.runs[i]? = some r from present]
      rfl
    · simp
  rw [setPhase, same]

theorem stop_setPhase (l : Lifecycle) (i : Nat) (phase : Phase) :
    (l.setPhase i phase).stop = l.stop.setPhase i phase := by
  have same : (l.runs.modify i fun r => { r with phase }).map (fun r => { r with stopped := true }) =
      (l.runs.map fun r => { r with stopped := true }).modify i fun r => { r with phase } := by
    refine List.ext_getElem? fun j => ?_
    simp only [List.getElem?_map, List.getElem?_modify]
    cases l.runs[j]? with
    | none => simp
    | some r => simp only [Option.map_some]; split <;> rfl
  rw [setPhase, stop, same, setPhase, stop]

end Lifecycle

namespace Heartbeat

open Lifecycle

variable {h : Heartbeat}

/-- The loop of the last run waits, if it has not been stopped. -/
def Waits (h : Heartbeat) : Prop :=
  h.isRunning = true → h.life.run? h.lastRun = some ⟨false, .waiting⟩

/-- The round of a beat, cut short if the heartbeat is stopped in it. -/
def round (h : Heartbeat) : Option Nat → Session × Results
  | none => h.roster.fanOut h.session h.workers h.settings.timeout.toNat
  | some time => h.roster.fanOutCut h.session h.workers h.settings.timeout.toNat time

/-- The heartbeat without the round: a round that is cut short stops it. -/
def cutOff (h : Heartbeat) : Option Nat → Heartbeat
  | none => h
  | some _ => { h with life := h.life.stop, workers := h.workers.shutdown }

def heard (h : Heartbeat) (cut : Option Nat) : Beat where
  results := (h.round cut).2
  deliveries := h.life.listeners.map fun l => ⟨l.name, h.life.beats + 1, (h.round cut).2⟩
  reports := ((h.round cut).1.reports.drop h.session.reports.length).map (·.2) ++
    h.life.listeners.flatMap fun l => l.reports (h.life.beats + 1) (h.round cut).2

def toldAll (h : Heartbeat) (cut : Option Nat) : Heartbeat :=
  { h.cutOff cut with
    life := { (h.cutOff cut).life.setPhase h.lastRun
        (.notifying (h.life.beats + 1) (h.round cut).2 []) with
      desk := h.life.desk.notifyAll (h.life.beats + 1) (h.round cut).2 h.life.listeners }
    session := (h.round cut).1 }

def afterBeat (h : Heartbeat) (cut : Option Nat) : Heartbeat :=
  { h.cutOff cut with
    life := { (h.cutOff cut).life.setPhase h.lastRun (if cut.isSome then .ended else .waiting) with
      beats := h.life.beats + 1
      desk := h.life.desk.notifyAll (h.life.beats + 1) (h.round cut).2 h.life.listeners }
    session := (h.round cut).1 }

theorem names_round (h : Heartbeat) (cut : Option Nat) :
    (h.round cut).2.names = (h.roster.active h.session.world).map (·.1) := by
  cases cut with
  | none => exact h.roster.names_fanOut ..
  | some time => exact h.roster.names_fanOutCut ..

/-! ### The steps of a beat -/

theorem wake?_waiting (waiting : h.life.run? h.lastRun = some ⟨false, .waiting⟩) :
    h.wake? = some { h with
      life := h.life.setPhase h.lastRun
        (.beating ((h.roster.active h.session.world).map (·.1))) } := by
  simp [wake?, Lifecycle.wake?, waiting]

theorem deliverAll?_notifying {l : Lifecycle} {i beat : Nat} {stopped : Bool} {results : Results}
    {left : List Listener} (present : l.run? i = some ⟨stopped, .notifying beat results left⟩) :
    deliverAll? i left.length l = some { l.setPhase i (.notifying beat results []) with
      desk := l.desk.notifyAll beat results left } := by
  induction left generalizing l with
  | nil =>
    rw [← setPhase_same present, setPhase_setPhase]
    rfl
  | cons next left ih =>
    have told : l.deliver? i = some { l.setPhase i (.notifying beat results left) with
        desk := l.desk.notify beat results next } := by
      simp [Lifecycle.deliver?, present]
    have later := ih (l := { l.setPhase i (.notifying beat results left) with
      desk := l.desk.notify beat results next }) (run?_setPhase_self present _)
    rw [List.length_cons, deliverAll?, told, Option.bind_some, later]
    simp [setPhase, Desk.notifyAll, List.modify_modify_eq, Function.comp_def]

/-- The results of a round end the beat that has begun its checks in the state `before`. -/
theorem conclude?_beating {before : Heartbeat} {l : Lifecycle} {i : Nat} {r : Run}
    {results : Results} (last : h.lastRun = i) (present : l.run? i = some r)
    (beating : h.life = l.setPhase i (.beating results.names))
    (same : l.listeners = before.life.listeners) (desk : l.desk = before.life.desk) (s : Session) :
    h.conclude? before s results = some (
      { h with
        life := { l.setPhase i (.notifying (l.beats + 1) results []) with
          desk := before.life.desk.notifyAll (l.beats + 1) results before.life.listeners }
        session := s },
      { results
        deliveries := before.life.listeners.map fun hearer => ⟨hearer.name, l.beats + 1, results⟩
        reports := (s.reports.drop before.session.reports.length).map (·.2) ++
          before.life.listeners.flatMap fun hearer => hearer.reports (l.beats + 1) results }) := by
  have collected : h.life.collect? i results =
      some (l.setPhase i (.notifying (l.beats + 1) results l.listeners)) := by
    rw [beating]
    simp only [Lifecycle.collect?, run?_setPhase_self present, Option.bind_eq_bind,
      Option.bind_some, if_true, pure, setPhase_setPhase]
    rfl
  have delivered := deliverAll?_notifying
    (run?_setPhase_self present (.notifying (l.beats + 1) results l.listeners))
  rw [setPhase_setPhase] at delivered
  have heard := before.life.desk.deliveries_notifyAll (l.beats + 1) results before.life.listeners
  have said := before.life.desk.reports_notifyAll (l.beats + 1) results before.life.listeners
  rw [conclude?, last, collected]
  simp only [Option.bind_eq_bind, Option.bind_some]
  rw [show (l.setPhase i _).listeners.length = l.listeners.length from rfl, delivered]
  rw [show (l.setPhase i _).desk = before.life.desk from desk, same]
  simp only [Option.bind_some, heard, said, List.drop_left, pure]

theorem stop_eq (running : h.isRunning = true) : h.stop = { h with
    life := h.life.stop
    workers := h.workers.shutdown
    session := h.session.shutdown h.workers } :=
  if_pos running

theorem lastRun_congr {h' : Heartbeat} (same : h'.life.runs.length = h.life.runs.length) :
    h'.lastRun = h.lastRun :=
  congrArg (· - 1) same

/-- A beat of a waiting heartbeat takes place, whatever its listeners respond. -/
theorem beatUntil?_waiting (running : h.isRunning = true)
    (waiting : h.life.run? h.lastRun = some ⟨false, .waiting⟩) (cut : Option Nat) :
    h.beatUntil? cut = some (h.toldAll cut, h.heard cut) := by
  have woken := wake?_waiting waiting
  rw [← h.names_round cut] at woken
  cases cut with
  | none =>
    rw [beatUntil?, beat?, woken]
    exact conclude?_beating (lastRun_congr (length_setPhase ..)) waiting rfl rfl rfl _
  | some time =>
    have length := (length_stop _).trans (h.life.length_setPhase h.lastRun
      (.beating (h.round (some time)).2.names))
    have down : stop { h with
        life := h.life.setPhase h.lastRun (.beating (h.round (some time)).2.names) } = _ :=
      stop_eq running
    rw [beatUntil?, woken]
    simp only [Option.bind_eq_bind, Option.bind_some]
    rw [down]
    exact conclude?_beating (l := h.life.stop) (lastRun_congr length) (run?_stop waiting)
      (stop_setPhase ..) rfl rfl _

theorem finish?_notifying {l : Lifecycle} {i beat : Nat} {r : Run} {results : Results}
    (last : h.lastRun = i) (present : l.run? i = some r)
    (notifying : h.life = l.setPhase i (.notifying beat results [])) :
    h.finish? = some { h with
      life := { l.setPhase i (if r.stopped then .ended else .waiting) with
        beats := l.beats + 1 } } := by
  have waiting := run?_setPhase_self present .waiting
  have counted : h.life.finish? i =
      some { l.setPhase i .waiting with beats := l.beats + 1 } := by
    rw [notifying]
    simp only [Lifecycle.finish?, run?_setPhase_self present, Option.bind_eq_bind,
      Option.bind_some, pure, setPhase_setPhase]
    rfl
  rw [finish?, last, counted]
  simp only [Option.bind_eq_bind, Option.bind_some, pure]
  cases signal : r.stopped with
  | false =>
    have stays : quit? { l.setPhase i .waiting with beats := l.beats + 1 } i = none := by
      rw [quit?, show run? { l.setPhase i .waiting with beats := l.beats + 1 } i = _ from waiting]
      simp [signal]
    rw [stays]
    rfl
  | true =>
    have quits : quit? { l.setPhase i .waiting with beats := l.beats + 1 } i =
        some { l.setPhase i .ended with beats := l.beats + 1 } := by
      rw [quit?, show run? { l.setPhase i .waiting with beats := l.beats + 1 } i = _ from waiting]
      simp only [signal, Option.bind_eq_bind, Option.bind_some, if_true, pure]
      exact congrArg (fun m : Lifecycle => some { m with beats := l.beats + 1 })
        (l.setPhase_setPhase i .waiting .ended)
    rw [quits]
    rfl

theorem finish?_toldAll (waiting : h.life.run? h.lastRun = some ⟨false, .waiting⟩)
    (cut : Option Nat) (takes : Nat → Nat) :
    ((h.toldAll cut).linger takes).finish? = some ((h.afterBeat cut).linger takes) := by
  cases cut with
  | none =>
    exact finish?_notifying (l := { h.life with desk := (h.toldAll none).life.desk })
      (lastRun_congr (length_setPhase ..)) waiting rfl
  | some time =>
    exact finish?_notifying (l := { h.life.stop with desk := (h.toldAll (some time)).life.desk })
      (lastRun_congr ((length_setPhase ..).trans (length_stop _))) (run?_stop waiting) rfl

/-! ### The heartbeat after a beat -/

theorem isRunning_afterBeat (h : Heartbeat) (cut : Option Nat) :
    (h.afterBeat cut).isRunning = (h.isRunning && cut.isNone) := by
  cases cut with
  | none => exact (Bool.and_true _).symm
  | some time => exact (Bool.and_false _).symm

theorem length_runs_afterBeat (h : Heartbeat) (cut : Option Nat) :
    (h.afterBeat cut).life.runs.length = h.life.runs.length := by
  cases cut with
  | none => exact length_setPhase ..
  | some time => exact (length_setPhase ..).trans (length_stop _)

theorem waits_afterBeat (waiting : h.life.run? h.lastRun = some ⟨false, .waiting⟩)
    (cut : Option Nat) : (h.afterBeat cut).Waits := by
  intro running
  rw [isRunning_afterBeat] at running
  cases cut with
  | some time => simp at running
  | none =>
    rw [lastRun_congr (h.length_runs_afterBeat none)]
    exact run?_setPhase_self waiting _

end Heartbeat

end HealthWatch
