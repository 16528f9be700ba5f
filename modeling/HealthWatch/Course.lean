import HealthWatch.Journal
import HealthWatch.Probe

/-!
# One evaluation

`Probe.begin` begins an evaluation. What it will do is settled at that moment: a `Course` says after
how many milliseconds it ends, with which outcome, and which effects it then has. An evaluation that
is given up before its end has no effects.
-/

namespace HealthWatch

inductive Effect where
  /-- A call of a leaf has finished. -/
  | finished (id : String)
  /-- A skipping check keeps a verdict. -/
  | stored (key : Cell.Key) (v : Verdict)
  /-- A time limit has given up the check inside it. -/
  | overran (limit : Nat)
  deriving DecidableEq, Repr

namespace Effect

def apply (w : World) : Effect → World
  | .finished id => w.finish id
  | .stored key v => w.store key v
  | .overran _ => w

def applyAll (w : World) (effects : List Effect) : World :=
  effects.foldl apply w

def event? : Effect → Option Event
  | .overran limit => some (.overran limit)
  | _ => none

end Effect

/-- What an evaluation that has begun will do. -/
inductive Course where
  | never
  | ends (after : Nat) (effects : List Effect) (outcome : Outcome)

namespace Course

/-- The course of one call of a leaf. A call that panics does not finish. -/
def ofAct (id : String) : Act → Course
  | .hang => .never
  | .finish after outcome =>
    match outcome with
    | .panic _ => .ends after [] outcome
    | _ => .ends after [.finished id] outcome

/-- The course of a skipping check that runs the check inside: the verdict is stored. -/
def stored (key : Cell.Key) (inner : Probe) : Course → Course
  | .never => .never
  | .ends after effects outcome =>
    match inner.reply outcome with
    | .verdict v => .ends after (effects ++ [.stored key v]) (.verdict v)
    | .died text => .ends after effects (Reply.died text).outcome

/-- The course of a time limit: the check inside is given up if it takes longer. -/
def limited (ms : Nat) (inner : Probe) : Course → Course
  | .never => .ends ms [.overran ms] (.verdict .timedOut)
  | .ends after effects outcome =>
    if after ≤ ms then .ends after effects (inner.reply outcome).outcome
    else .ends ms [.overran ms] (.verdict .timedOut)

def after? : Course → Option Nat
  | .never => none
  | .ends after _ _ => some after

end Course

def Probe.begin : Probe → World → World × Course
  | .leaf l, w => (w.begin l.id, .ofAct l.id (l.plan (w.tally l.id).begun))
  | .dying id text, w => (w.begin id, .ends 0 [] (.panic (.text text)))
  | .skip key skips inner, w =>
    match (w.cell key).replay? skips with
    | some v => (w.turn key, .ends 0 [] (.verdict v))
    | none =>
      let (w, course) := inner.begin (w.turn key)
      (w, course.stored key inner)
  | .limit ms inner, w =>
    let (w, course) := inner.begin w
    (w, course.limited ms inner)

end HealthWatch
