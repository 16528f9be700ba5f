import HealthWatch.Heartbeat.Basic

/-!
# A heartbeat on the clock

`live?` lets a heartbeat be started and stopped and beat, in any order, while the rest of its
session changes in between. `beats?` lets a run that waits beat on the clock of its session, among
listeners that take their time and checks that change meanwhile.
-/

namespace HealthWatch.Heartbeat

def linger (h : Heartbeat) (takes : Nat → Nat) : Heartbeat :=
  { h with
    session := (List.range h.life.listeners.length).foldl (fun s i => s.advance (takes i)) h.session }

/-! ### Starts, stops and beats -/

inductive Occurrence where
  | start
  | stop
  /-- A beat, in the middle of which the heartbeat is perhaps stopped. Its listeners take so long. -/
  | beat (cut : Option Nat) (takes : Nat → Nat)
  | meanwhile (change : Session → Session)

structure Beaten where
  before : Heartbeat
  beat : Beat

def occur? (h : Heartbeat) : Occurrence → Option (Heartbeat × List Beaten)
  | .start => some (h.start.toOption.getD h, [])
  | .stop => some (h.stop, [])
  | .beat cut takes =>
    if h.isRunning then do
      let (told, beat) ← h.beatUntil? cut
      return (← (told.linger takes).finish?, [⟨h, beat⟩])
    else some (h, [])
  | .meanwhile change => some ({ h with session := change h.session }, [])

/-- Lets all this happen one after another; all beats in their order. -/
def live? (h : Heartbeat) : List Occurrence → Option (Heartbeat × List Beaten)
  | [] => some (h, [])
  | o :: rest => (h.occur? o).bind fun a => (a.1.live? rest).map fun b => (b.1, a.2 ++ b.2)

/-! ### The beats of a run -/

structure Surroundings where
  /-- What else happens to the session before the beat of a number. -/
  meanwhile : Nat → Session → Session
  /-- How long a listener takes over a beat, by the numbers of both. -/
  takes : Nat → Nat → Nat
  /-- When the heartbeat is stopped in the middle of a beat, if it is. -/
  stop? : Nat → Option Nat

/-- The times of a beat: when its checks begin, when their results are complete, and when all
listeners have been told. -/
structure Span where
  begun : Nat
  collected : Nat
  told : Nat
  deriving DecidableEq

def sleep (h : Heartbeat) (around : Surroundings) (k : Nat) : Heartbeat :=
  let s := h.session.advance (h.pause k).toNat
  { h with session := { around.meanwhile k s with now := s.now } }

def timedBeat? (h : Heartbeat) (around : Surroundings) (k : Nat) : Option (Heartbeat × Span) := do
  let (collected, _) ← h.beatUntil? (around.stop? k)
  let told := collected.linger (around.takes k)
  return (← told.finish?, ⟨h.session.now, collected.session.now, told.session.now⟩)

/-- At most `n` beats from that of number `k` on. A run that was stopped in a beat ends after it;
one that is stopped while it waits has as many beats as it has begun. -/
def beats? (around : Surroundings) : Nat → Nat → Heartbeat → Option (List Span)
  | 0, _, _ => some []
  | n + 1, k, h =>
    if h.isRunning then do
      let (h', span) ← (h.sleep around k).timedBeat? around k
      return span :: (← beats? around n (k + 1) h')
    else some []

end HealthWatch.Heartbeat
