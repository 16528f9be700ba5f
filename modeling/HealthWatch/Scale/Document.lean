import HealthWatch.Scale.Basic

/-!
# Stored scales

A scale is stored as an object whose member `thresholds` lists objects with `kind` and `value`, or
as arrays with the same parts in order. Thresholds are taken as they stand: a stored scale need
not list the highest value first.
-/

namespace HealthWatch

variable {α : Type} [Stored α]

def Threshold.ofJson? : Json → Option (Threshold α)
  | .array [kind, value] => build? kind value
  | .object members => do
    build? (← Json.member? members "kind") (← Json.member? members "value")
  | _ => none
where
  build? (kind value : Json) : Option (Threshold α) := do
    return ⟨← Kind.ofJson? kind, ← Stored.ofJson? value⟩

namespace Scale

def toJson (s : Scale α) : Json :=
  .object [("thresholds", .array (s.thresholds.map Threshold.toJson))]

/-- Reads a scale. Other members of an object are ignored. -/
def ofJson? (j : Json) : Option (Scale α) := do
  let list ←
    match j with
    | .array [list] => some list
    | j => j.get? "thresholds"
  return ⟨← list.toList? Threshold.ofJson?⟩

end Scale

end HealthWatch
