import HealthWatch.Fanout

/-!
# Histories

A history of checks is a list of `Move`s: someone evaluates a check or the checks of a roster,
begins a check without waiting for it, switches one on or off, shuts a pool down or lets the clock
run. A history around one check is a list of `Ask`s.
-/

namespace HealthWatch

inductive Evaluation where
  | run
  | runOne (name : String)
  | fanOut (workers : Workers) (timeout : Nat)
  /-- A fanned-out round whose pool is shut down at a time. -/
  | fanOutCut (workers : Workers) (timeout time : Nat)

inductive Move where
  /-- A check begins and nobody waits for it. -/
  | begin (p : Probe)
  | check (p : Probe)
  | safeCheck (p : Probe)
  | evaluate (r : Roster) (e : Evaluation)
  | switch (id : String) (on : Bool)
  | shutdown (workers : Workers)
  | advance (ms : Nat)

inductive Answer where
  | done
  | outcome (o : Outcome)
  | reply (told : Except Fault Reply)
  | round (ended : Roster.RoundEnd)

/-- The checks that a move may begin. -/
def Move.checks : Move → List Probe
  | .begin p | .check p | .safeCheck p => [p]
  | .evaluate r _ => r.checks.values
  | .switch _ _ | .shutdown _ | .advance _ => []

/-- Evaluates checks of a roster; `none` if that never ends. -/
def Roster.evaluate? (r : Roster) (s : Session) : Evaluation → Option (Session × Answer)
  | .run => (r.run s).map fun a => (a.1, .round a.2)
  | .runOne name => (r.runOne s name).map fun a => (a.1, .reply a.2)
  | .fanOut workers timeout =>
    let (t, results) := r.fanOut s workers timeout
    some (t, .round (.results results))
  | .fanOutCut workers timeout time =>
    let (t, results) := r.fanOutCut s workers timeout time
    some (t, .round (.results results))

namespace Session

def move? (s : Session) : Move → Option (Session × Answer)
  | .begin p => some ((s.launch p).1, .done)
  | .check p => (s.check p).map fun a => (a.1, .outcome a.2)
  | .safeCheck p => (s.safeCheck p).map fun a => (a.1, .reply (.ok a.2))
  | .evaluate r e => r.evaluate? s e
  | .switch id on => some (s.switch id on, .done)
  | .shutdown workers => some (s.shutdown workers, .done)
  | .advance ms => some (s.advance ms, .done)

/-- Makes moves one after another; `none` if one of them never ends. -/
def play? (s : Session) : List Move → Option (Session × List Answer)
  | [] => some (s, [])
  | move :: rest => (s.move? move).bind fun a =>
    (a.1.play? rest).map fun b => (b.1, a.2 :: b.2)

end Session

inductive Ask where
  | own
  | elsewhere (m : Move)

def Ask.move (p : Probe) : Ask → Move
  | own => .safeCheck p
  | elsewhere m => m

end HealthWatch
