import HealthWatch.Listener

/-!
# The life of a heartbeat

A heartbeat is started and stopped. Every start begins a `Run`, a loop that waits, beats, and
waits again until it is told to stop; a run that was stopped in the middle of a beat brings that
beat to its end, also when the heartbeat has been started again meanwhile. `Lifecycle` holds all
runs, and its operations are the steps that the caller and the loops take, in any order.
-/

namespace HealthWatch

inductive Phase where
  /-- Waits for the next beat. -/
  | waiting
  /-- Has begun the checks of a beat: those that were active, by name. -/
  | beating (active : List String)
  /-- Notifies the listeners of a beat, of which some are left. -/
  | notifying (beat : Nat) (results : Results) (left : List Listener)
  /-- The loop has ended. -/
  | ended

/-- One run of the loop. `stopped` is the sign to end it. -/
structure Run where
  stopped : Bool
  phase : Phase

/-- A heartbeat with all its runs, the first one first. Beats are counted without bound; that a
counter of 64 bits starts again after `2 ^ 64` of them is left out. -/
structure Lifecycle where
  listeners : List Listener
  running : Bool
  runs : List Run
  beats : Nat
  desk : Desk

namespace Lifecycle

def idle (listeners : List Listener) : Lifecycle := ⟨listeners, false, [], 0, .empty⟩

def run? (l : Lifecycle) (i : Nat) : Option Run :=
  l.runs[i]?

def setPhase (l : Lifecycle) (i : Nat) (phase : Phase) : Lifecycle :=
  { l with runs := l.runs.modify i fun r => { r with phase } }

def start (l : Lifecycle) : Except Fault Lifecycle :=
  if l.running then .error .alreadyRunning
  else .ok { l with running := true, runs := l.runs ++ [⟨false, .waiting⟩] }

/-- Tells every run to end. -/
def stop (l : Lifecycle) : Lifecycle :=
  { l with running := false, runs := l.runs.map fun r => { r with stopped := true } }

/-- The loop of a run wakes up: it begins a beat of the active checks, or ends if it was stopped. -/
def wake? (l : Lifecycle) (i : Nat) (active : List String) : Option Lifecycle := do
  let r ← l.run? i
  match r.phase with
  | .waiting => return l.setPhase i (if r.stopped then .ended else .beating active)
  | _ => none

/-- The loop of a stopped run notices that while it waits. -/
def quit? (l : Lifecycle) (i : Nat) : Option Lifecycle := do
  let r ← l.run? i
  match r.phase with
  | .waiting => if r.stopped then return l.setPhase i .ended else none
  | _ => none

/-- The results of a beat are complete: one verdict for each check that was active at its begin. -/
def collect? (l : Lifecycle) (i : Nat) (results : Results) : Option Lifecycle := do
  let r ← l.run? i
  match r.phase with
  | .beating active =>
    if results.names = active then
      return l.setPhase i (.notifying (l.beats + 1) results l.listeners)
    else none
  | _ => none

/-- The next listener is notified of a beat. -/
def deliver? (l : Lifecycle) (i : Nat) : Option Lifecycle := do
  let r ← l.run? i
  match r.phase with
  | .notifying beat results (next :: left) =>
    return { l.setPhase i (.notifying beat results left) with
      desk := l.desk.notify beat results next }
  | _ => none

/-- All listeners have been notified: the beat is counted and the loop waits again. -/
def finish? (l : Lifecycle) (i : Nat) : Option Lifecycle := do
  let r ← l.run? i
  match r.phase with
  | .notifying _ _ [] => return { l.setPhase i .waiting with beats := l.beats + 1 }
  | _ => none

inductive Step where
  | start
  | stop
  | wake (run : Nat) (active : List String)
  | quit (run : Nat)
  | collect (run : Nat) (results : Results)
  | deliver (run : Nat)
  | finish (run : Nat)

/-- Takes a step, if it can be taken. -/
def step? (l : Lifecycle) : Step → Option Lifecycle
  | .start => l.start.toOption
  | .stop => some l.stop
  | .wake i active => l.wake? i active
  | .quit i => l.quit? i
  | .collect i results => l.collect? i results
  | .deliver i => l.deliver? i
  | .finish i => l.finish? i

def steps? (l : Lifecycle) : List Step → Option Lifecycle
  | [] => some l
  | step :: rest => (l.step? step).bind fun l => l.steps? rest

def inBeat (r : Run) : Bool :=
  match r.phase with
  | .beating _ | .notifying .. => true
  | _ => false

end Lifecycle

end HealthWatch
