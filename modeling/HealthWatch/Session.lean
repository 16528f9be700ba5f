import HealthWatch.Course

/-!
# Sessions

A `Session` is a run of the clock: the time, the state of all checks, the evaluations that go on
in the background, and what has been reported. The clock stands still while something can happen
at once and then jumps to the next end of an evaluation. The session has one thread: a check that is
given to it begins when the thread next waits for something.
-/

namespace HealthWatch

structure Pending where
  due : Nat
  effects : List Effect

/-- The clock, the state of the checks, and the evaluations in progress in the order of their begin.
Reports carry the time. -/
structure Session where
  now : Nat
  world : World
  pending : List Pending
  /-- The checks that the thread has been given and has not begun, in the order of their coming. -/
  queued : List Probe
  reports : List (Nat × Event)

namespace Session

def fresh : Session := ⟨0, .fresh, [], [], []⟩

def conclude (s : Session) (at_ : Nat) (effects : List Effect) : Session :=
  { s with
    world := Effect.applyAll s.world effects
    reports := s.reports ++ (effects.filterMap Effect.event?).map fun e => (at_, e) }

/-- The evaluations that end by the time `t`: the earliest first, and of two that end together the
one that began first. -/
def dueBy (s : Session) (t : Nat) : List Pending :=
  (s.pending.filter (·.due ≤ t)).mergeSort fun a b => a.due ≤ b.due

/-- Lets the clock run up to the time `t`. What is due at `t` ends. -/
def runTo (s : Session) (t : Nat) : Session :=
  let settled := (s.dueBy t).foldl (fun s p => s.conclude p.due p.effects) s
  { settled with now := t, pending := s.pending.filter fun p => !(p.due ≤ t) }

def giveUp (s : Session) : Session :=
  { s with pending := [] }

/-- Begins an evaluation. One that ends at once has its effects before anything else happens. -/
def launch (s : Session) (p : Probe) : Session × Course :=
  let (world, course) := p.begin s.world
  let s := { s with world }
  match course with
  | .never => (s, course)
  | .ends 0 effects _ => (s.conclude s.now effects, course)
  | .ends after effects _ => ({ s with pending := s.pending ++ [⟨s.now + after, effects⟩] }, course)

/-- Begins the checks that the thread has been given. -/
def beginQueued (s : Session) : Session :=
  s.queued.foldl (fun s p => (s.launch p).1) { s with queued := [] }

def advance (s : Session) (ms : Nat) : Session :=
  s.beginQueued.runTo (s.now + ms)

/-- Evaluates a check and waits for its outcome; `none` if it never ends. A check that ends at once
does not keep the thread waiting. -/
def check (s : Session) (p : Probe) : Option (Session × Outcome) :=
  match s.launch p with
  | (_, .never) => none
  | (s, .ends after _ outcome) => some (if after = 0 then s else s.advance after, outcome)

/-- The protected evaluation of a check; `none` if it never ends. -/
def safeCheck (s : Session) (p : Probe) : Option (Session × Reply) :=
  (s.check p).map fun r => (r.1, p.reply r.2)

def switch (s : Session) (id : String) (on : Bool) : Session :=
  { s with world := s.world.switch id on }

end Session

end HealthWatch
