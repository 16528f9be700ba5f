import HealthWatch.Json.Parser
import HealthWatch.Settings.Basic

/-!
# Stored settings

Settings are stored as a JSON object. Reading it, a missing member takes its default, an unknown
one is ignored, and a known one must not be repeated. An array stands for the members in order.
-/

namespace HealthWatch.Settings

def memberNames : List String :=
  ["initial_delay_ms", "period_ms", "pool_size", "timeout_ms", "checks", "skips"]

def allowlistJson : Option (List String) → Json
  | none => .null
  | some names => .array (names.map .string)

def countsJson (counts : List (String × UInt32)) : Json :=
  .object (counts.map fun e => (e.1, .integer e.2.toNat))

def skipsJson (skips : NameMap UInt32) : Json :=
  countsJson skips.entries

def toJson (s : Settings) : Json :=
  .object [
    ("initial_delay_ms", .integer s.initialDelay.toNat),
    ("period_ms", .integer s.period.toNat),
    ("pool_size", .integer s.poolSize.toNat),
    ("timeout_ms", .integer s.timeout.toNat),
    ("checks", allowlistJson s.allowlist),
    ("skips", skipsJson s.skips)]

def word? (j : Json) : Option UInt64 :=
  (j.toNat? UInt64.size).map UInt64.ofNat

def allowlist? : Json → Option (Option (List String))
  | .null => some none
  | j => (j.toList? Json.toString?).map some

def skip? (m : String × Json) : Option (String × UInt32) :=
  (m.2.toNat? UInt32.size).map fun n => (m.1, UInt32.ofNat n)

/-- Skip counts by name; of a repeated name the last count stays. -/
def skips? : Json → Option (NameMap UInt32)
  | .object members => (members.mapM skip?).map NameMap.ofList
  | _ => none

/-- Sets the member of a name; an unknown name changes nothing. -/
def setMember? (s : Settings) (name : String) (j : Json) : Option Settings :=
  match name with
  | "initial_delay_ms" => (word? j).map fun n => { s with initialDelay := n }
  | "period_ms" => (word? j).map fun n => { s with period := n }
  | "pool_size" => (word? j).map fun n => { s with poolSize := n }
  | "timeout_ms" => (word? j).map fun n => { s with timeout := n }
  | "checks" => (allowlist? j).map fun names => { s with allowlist := names }
  | "skips" => (skips? j).map fun skips => { s with skips }
  | _ => some s

/-- Sets members one after another; `seen` lists the known names set so far. -/
def setMembers? (s : Settings) (seen : List String) : List (String × Json) → Option Settings
  | [] => some s
  | (name, j) :: rest =>
    if memberNames.contains name then
      if seen.contains name then none
      else do setMembers? (← s.setMember? name j) (name :: seen) rest
    else s.setMembers? seen rest

/-- Reads stored settings. -/
def ofJson? : Json → Option Settings
  | .object members => default.setMembers? [] members
  | .array items =>
    if items.length ≤ memberNames.length then default.setMembers? [] (memberNames.zip items)
    else none
  | _ => none

def ofText? (text : String) : Option Settings :=
  (Json.parse text).bind ofJson?

end HealthWatch.Settings
