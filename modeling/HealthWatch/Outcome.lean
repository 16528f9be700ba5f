import HealthWatch.Verdict

/-!
# Outcomes

A check ends with an `Outcome`: a verdict, an error or a panic. Whoever evaluates a check goes
through `Outcome.caught`, which turns every outcome into a verdict. A check may refuse this
protection and die instead; a `Reply` is what its caller then sees.
-/

namespace HealthWatch

inductive Payload where
  | text (s : String)
  | other
  deriving DecidableEq, Repr

def Payload.describe : Payload → String
  | .text s => s
  | .other => "non-string panic payload"

inductive Outcome where
  | verdict (v : Verdict)
  | error (cause : Cause)
  | panic (payload : Payload)
  deriving DecidableEq, Repr

namespace Outcome

def panicCause (told : String) : Cause :=
  ⟨"health check panicked: " ++ told, []⟩

/-- The verdict on an outcome: errors and panics are critical. -/
def caught : Outcome → Verdict
  | .verdict v => v
  | .error cause => .failed cause
  | .panic payload => .failed (panicCause payload.describe)

end Outcome

inductive Reply where
  | verdict (v : Verdict)
  /-- The protection itself panicked with a text. -/
  | died (text : String)
  deriving DecidableEq, Repr

/-- What a check makes of the reply of the check inside it: a death is a panic of its own. -/
def Reply.outcome : Reply → Outcome
  | .verdict v => .verdict v
  | .died text => .panic (.text text)

end HealthWatch
