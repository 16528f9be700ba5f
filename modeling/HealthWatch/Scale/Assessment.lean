import HealthWatch.Verdict

/-!
# Assessing measured values

Two ways to turn a value and a scale into a verdict. `Scale.assess` goes by the first threshold that
the value reaches, so a value above the maximum is critical and one below all thresholds is unknown.
`Scale.grade` looks at the warning and critical thresholds only.
-/

namespace HealthWatch.Scale

open Threshold (Kind)

variable {α : Type} [Quantity α]

def reading (label : String) (value : α) : String :=
  label ++ " is " ++ Quantity.render value

def reachedMessage (label : String) (value : α) (kind : Kind) (boundary : α) : String :=
  reading label value ++ ", reached " ++ kind.name ++ " threshold " ++ Quantity.render boundary

/-- Rates a value by the first threshold that it reaches. -/
def assess (s : Scale α) (label : String) (value : α) : Verdict :=
  let verdict : Verdict :=
    match s.reached? value with
    | some t =>
      if t.kind = .min then .ok (reading label value)
      else .new t.kind.reported (some (reachedMessage label value t.kind t.value))
    | none => .unknown (reading label value ++ ", below the expected range")
  verdict.withData (.take value s)

/-- Rates a value by the critical and the warning threshold alone. -/
def grade (s : Scale α) (label : String) (value : α) : Verdict :=
  let status := s.classify value
  let message :=
    if status = .ok then reading label value
    else
      let kind := if status = .critical then Kind.critical else Kind.warning
      match s.get? kind with
      | some t => reachedMessage label value kind t.value
      | none => reading label value
  (Verdict.new status (some message)).withData (.take value s)

end HealthWatch.Scale
