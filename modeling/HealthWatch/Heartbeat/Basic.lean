import HealthWatch.Fanout
import HealthWatch.Heartbeat.Lifecycle
import HealthWatch.Settings.Basic

/-!
# Heartbeats

A `Heartbeat` beats a roster: each beat fans the active checks out on a pool of its own and tells
the results to every listener. The settings choose the checks and wrap those with a skip count;
the roster they were chosen from is left as it is.
-/

namespace HealthWatch

structure Heartbeat where
  settings : Settings
  roster : Roster
  life : Lifecycle
  workers : Workers
  session : Session

structure Beat where
  results : Results
  deliveries : List Delivery
  reports : List Event

namespace Heartbeat

def unregistered (r : Roster) (names : List String) : List String :=
  names.filter fun name => !r.checks.contains name

def selected (source : Roster) (settings : Settings) : Roster :=
  match settings.allowlist with
  | some names => source.only names
  | none => source

/-- The reports on settings that apply to no check: names of the allowlist that are not
registered, then names with a skip count that are not selected. -/
def settingsReport (source : Roster) (settings : Settings) : List Event :=
  (unregistered source (settings.allowlist.getD [])).map .unregistered ++
    (unregistered (selected source settings) settings.skips.names).map .idleSkip

/-- A heartbeat of the checks of `source`, with the reports on its settings. The cells of its
skipping checks belong to the series. -/
def create (source : Roster) (settings : Settings) (series : Nat) (listeners : List Listener)
    (session : Session) : Except Fault (Heartbeat × List Event) := do
  settings.validate
  let h : Heartbeat := {
    settings
    roster := (selected source settings).withSkips series settings.skips
    life := .idle listeners
    workers := ⟨settings.poolSize.toNat, .down⟩
    session }
  return (h, settingsReport source settings)

def isRunning (h : Heartbeat) : Bool :=
  h.life.running

/-- The beats whose listeners have been notified. -/
def beatCount (h : Heartbeat) : Nat :=
  h.life.beats

def lastRun (h : Heartbeat) : Nat :=
  h.life.runs.length - 1

def start (h : Heartbeat) : Except Fault Heartbeat := do
  let life ← h.life.start
  let workers ← Workers.start h.settings.poolSize.toNat
  return { h with life, workers }

/-- Stops the loop and shuts its pool down, which gives up what its checks are doing. -/
def stop (h : Heartbeat) : Heartbeat :=
  if h.isRunning then
    { h with
      life := h.life.stop
      workers := h.workers.shutdown
      session := h.session.shutdown h.workers }
  else h

/-- What a loop waits before a beat, by the number of beats that it has behind it. -/
def pause (h : Heartbeat) : Nat → UInt64
  | 0 => h.settings.initialDelay
  | _ + 1 => h.settings.period

/-- Begins a beat of the last run. -/
def wake? (h : Heartbeat) : Option Heartbeat := do
  let active := (h.roster.active h.session.world).map (·.1)
  return { h with life := ← h.life.wake? h.lastRun active }

/-- Notifies the next `count` listeners of a beat. -/
def deliverAll? (run : Nat) : Nat → Lifecycle → Option Lifecycle
  | 0, life => some life
  | count + 1, life => (life.deliver? run).bind (deliverAll? run count)

/-- Ends a beat that has begun in the state `before`: its checks have brought the results. -/
def conclude? (h before : Heartbeat) (session : Session) (results : Results) :
    Option (Heartbeat × Beat) := do
  let life ← h.life.collect? h.lastRun results
  let life ← deliverAll? h.lastRun life.listeners.length life
  let beat : Beat := {
    results
    deliveries := life.desk.deliveries.drop before.life.desk.deliveries.length
    reports := (session.reports.drop before.session.reports.length).map (·.2) ++
      life.desk.reports.drop before.life.desk.reports.length }
  return ({ h with life, session }, beat)

def beat? (h : Heartbeat) : Option (Heartbeat × Beat) := do
  let woken ← h.wake?
  let (session, results) := h.roster.fanOut h.session h.workers h.settings.timeout.toNat
  woken.conclude? h session results

/-- A beat, in the middle of which the heartbeat is perhaps stopped. -/
def beatUntil? (h : Heartbeat) : Option Nat → Option (Heartbeat × Beat)
  | none => h.beat?
  | some time => do
    let woken ← h.wake?
    let (session, results) :=
      h.roster.fanOutCut h.session h.workers h.settings.timeout.toNat time
    woken.stop.conclude? h session results

/-- Counts the beat of the last run; a stopped run then ends. -/
def finish? (h : Heartbeat) : Option Heartbeat := do
  let life ← h.life.finish? h.lastRun
  return { h with life := (life.quit? h.lastRun).getD life }

end Heartbeat

end HealthWatch
