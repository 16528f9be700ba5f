import HealthWatch.World

/-!
# Overlapping invocations

`Overlap` is a skipping check with all its invocations, in the order of their numbers. An invocation
takes a number, looks at the cell, then repeats the verdict in it or runs the check inside and
stores the verdict of that, and at last answers; `steps?` interleaves all this in any order. An
invocation that is dropped takes no further step.
-/

namespace HealthWatch

inductive Stage where
  | numbered
  | repeating (v : Verdict)
  | running
  | ran (v : Verdict)
  | stored (v : Verdict)
  | answered (v : Verdict)

structure Invocation where
  number : Nat
  stage : Stage

structure Overlap where
  cell : Cell
  calls : List Invocation

inductive Overlap.Step where
  /-- A new invocation takes a number. -/
  | call
  /-- It looks and has to run the check inside. -/
  | run (k : Nat)
  /-- It looks and finds a verdict to repeat. -/
  | replay (k : Nat) (v : Verdict)
  /-- The check inside has ended. -/
  | finish (k : Nat) (v : Verdict)
  | store (k : Nat) (v : Verdict)
  | answer (k : Nat) (v : Verdict)
  deriving DecidableEq

/-- The stage after a step of an invocation that sees a verdict to repeat, or none. -/
def Stage.next? (seen : Option Verdict) : Stage → Overlap.Step → Option Stage
  | .numbered, .run _ => if seen = none then some .running else none
  | .numbered, .replay _ v => if seen = some v then some (.repeating v) else none
  | .running, .finish _ v => some (.ran v)
  | .ran v, .store _ v' => if v = v' then some (.stored v) else none
  | .repeating v, .answer _ v' => if v = v' then some (.answered v) else none
  | .stored v, .answer _ v' => if v = v' then some (.answered v) else none
  | _, _ => none

namespace Overlap

namespace Step

def caller? : Step → Option Nat
  | .call => none
  | .run k | .replay k _ | .finish k _ | .store k _ | .answer k _ => some k

def leave (c : Cell) : Step → Cell
  | .store _ v => { c with stored := some v }
  | _ => c

end Step

def fresh : Overlap := ⟨.fresh, []⟩

def call (o : Overlap) : Overlap :=
  ⟨o.cell.turn, o.calls ++ [⟨o.cell.turn.turns, .numbered⟩]⟩

/-- The verdict that an invocation repeats if it looks at the cell now. -/
def view? (o : Overlap) (skips : Nat) (c : Invocation) : Option Verdict :=
  ({ o.cell with turns := c.number - 1 } : Cell).replay? skips

def step? (skips : Nat) (o : Overlap) (step : Step) : Option Overlap :=
  match step.caller? with
  | none => some o.call
  | some k =>
    o.calls[k]?.bind fun c => (c.stage.next? (o.view? skips c) step).map fun stage =>
      ⟨step.leave o.cell, o.calls.set k { c with stage }⟩

/-- Takes steps one after another, if each can be taken. -/
def steps? (skips : Nat) (o : Overlap) : List Step → Option Overlap
  | [] => some o
  | step :: rest => (o.step? skips step).bind fun o => o.steps? skips rest

end Overlap

end HealthWatch
