import HealthWatch.NameMap
import HealthWatch.Session
import HealthWatch.Text.Quoted

/-!
# Rosters

A `Roster` holds checks by name. It is built once and never changes: narrower or decorated rosters
are new values. A roster evaluates its active checks one after another, or a single one by name.
-/

namespace HealthWatch

abbrev Results := NameMap Verdict

structure Roster where
  checks : NameMap Probe

namespace Roster

def empty : Roster := ⟨.empty⟩

/-- The roster with one more check. Names are not blank and not used twice. -/
def register (r : Roster) (name : String) (p : Probe) : Except Fault Roster :=
  if Text.blank name then .error (.invalidSetup .blankCheckName)
  else if r.checks.contains name then .error (.invalidSetup (.duplicateCheck name))
  else .ok ⟨r.checks.insert name p⟩

def build (checks : List (String × Probe)) : Except Fault Roster :=
  checks.foldlM (fun r e => r.register e.1 e.2) empty

def names (r : Roster) : List String :=
  r.checks.names

def size (r : Roster) : Nat :=
  r.checks.size

def get? (r : Roster) (name : String) : Option Probe :=
  r.checks.find? name

def describe (r : Roster) : String :=
  "HealthCheckRegistry \x7b checks: [" ++ ", ".intercalate (r.names.map Text.quoted) ++ "] \x7d"

/-! ### Derived rosters -/

def filtered (r : Roster) (p : String → Bool) : Roster :=
  ⟨r.checks.filter p⟩

def only (r : Roster) (names : List String) : Roster :=
  r.filtered fun name => names.contains name

/-- The roster in which each check with a positive skip count is wrapped in a skipping check, whose
cell belongs to the series. -/
def withSkips (r : Roster) (series : Nat) (skips : NameMap UInt32) : Roster :=
  ⟨r.checks.map fun name p =>
    match skips.find? name with
    | some count => if 0 < count then .skip ⟨series, name⟩ count.toNat p else p
    | none => p⟩

/-! ### Evaluation -/

/-- The checks that take part in a round, by name. -/
def active (r : Roster) (w : World) : List (String × Probe) :=
  r.checks.entries.filter fun e => e.2.isActive w

/-- Evaluates one check, active or not. A check that never ends gives no answer. -/
def runOne (r : Roster) (s : Session) (name : String) :
    Option (Session × Except Fault Reply) :=
  match r.get? name with
  | none => some (s, .error (.unknownCheck name))
  | some p => (s.safeCheck p).map fun a => (a.1, .ok a.2)

/-- How a serial round ends: with the results, or with the death of a check. -/
inductive RoundEnd where
  | results (results : Results)
  | died (text : String)

/-- Evaluates the active ones of the checks one after another and adds their verdicts to `acc`. -/
def runFrom (s : Session) (acc : Results) : List (String × Probe) → Option (Session × RoundEnd)
  | [] => some (s, .results acc)
  | (name, p) :: rest =>
    if p.isActive s.world then
      match s.safeCheck p with
      | none => none
      | some (s, .verdict v) => runFrom s (acc.insert name v) rest
      | some (s, .died text) => some (s, .died text)
    else runFrom s acc rest

/-- Evaluates the active checks one after another, by name. There is no time limit: a check that
never ends blocks the round. -/
def run (r : Roster) (s : Session) : Option (Session × RoundEnd) :=
  runFrom s .empty r.checks.entries

end Roster

end HealthWatch
