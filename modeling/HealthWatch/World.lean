import HealthWatch.Verdict

/-!
# The state of checks

Checks are values; what changes when they are evaluated is kept in a `World`: how often each check
has begun and finished, whether it is switched off, and the cell of every skipping check. Each
write leaves all else alone, which the lemmas of this module say.
-/

namespace HealthWatch

@[ext]
structure Tally where
  begun : Nat
  finished : Nat
  deriving DecidableEq, Repr

/-- What a skipping check remembers: the invocations so far and the last verdict it stored. The
invocations are counted without bound; that a counter of 64 bits starts again after `2 ^ 64` of them
is left out. -/
@[ext]
structure Cell where
  turns : Nat
  stored : Option Verdict
  deriving DecidableEq, Repr

namespace Cell

def fresh : Cell := ⟨0, none⟩

/-- Counts an invocation. -/
def turn (c : Cell) : Cell := { c with turns := c.turns + 1 }

/-- The verdict that the next invocation repeats, for a check that skips `skips` invocations after
each run: none on schedule, and none while nothing is stored. -/
def replay? (c : Cell) (skips : Nat) : Option Verdict :=
  if c.turns % (skips + 1) = 0 then none else c.stored

/-- Tells cells apart: those of one derivation share a series and differ by name. -/
structure Key where
  series : Nat
  name : String
  deriving DecidableEq, Repr

end Cell

@[ext]
structure World where
  tally : String → Tally
  off : String → Bool
  cell : Cell.Key → Cell

namespace World

def fresh : World := ⟨fun _ => ⟨0, 0⟩, fun _ => false, fun _ => .fresh⟩

def begin (w : World) (id : String) : World :=
  { w with tally := fun i =>
      if i = id then { w.tally i with begun := (w.tally i).begun + 1 } else w.tally i }

def finish (w : World) (id : String) : World :=
  { w with tally := fun i =>
      if i = id then { w.tally i with finished := (w.tally i).finished + 1 } else w.tally i }

def switch (w : World) (id : String) (on : Bool) : World :=
  { w with off := fun i => if i = id then !on else w.off i }

/-- Counts an invocation of the skipping check of a cell. -/
def turn (w : World) (key : Cell.Key) : World :=
  { w with cell := fun k => if k = key then (w.cell k).turn else w.cell k }

def store (w : World) (key : Cell.Key) (v : Verdict) : World :=
  { w with cell := fun k => if k = key then { w.cell k with stored := some v } else w.cell k }

/-! ### What a write leaves alone -/

variable (w : World)

@[simp] theorem off_begin (id : String) : (w.begin id).off = w.off := rfl
@[simp] theorem cell_begin (id : String) : (w.begin id).cell = w.cell := rfl
@[simp] theorem off_finish (id : String) : (w.finish id).off = w.off := rfl
@[simp] theorem cell_finish (id : String) : (w.finish id).cell = w.cell := rfl
@[simp] theorem tally_switch (id : String) (on : Bool) : (w.switch id on).tally = w.tally := rfl
@[simp] theorem cell_switch (id : String) (on : Bool) : (w.switch id on).cell = w.cell := rfl
@[simp] theorem tally_turn (key : Cell.Key) : (w.turn key).tally = w.tally := rfl
@[simp] theorem off_turn (key : Cell.Key) : (w.turn key).off = w.off := rfl
@[simp] theorem tally_store (key : Cell.Key) (v : Verdict) : (w.store key v).tally = w.tally := rfl
@[simp] theorem off_store (key : Cell.Key) (v : Verdict) : (w.store key v).off = w.off := rfl

end World

end HealthWatch
