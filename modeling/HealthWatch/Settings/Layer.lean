import HealthWatch.Keyed
import HealthWatch.Settings.Basic
import HealthWatch.Settings.Key
import HealthWatch.Settings.Node

/-!
# Layers of settings

Settings come in layers: a list of keys and nodes from each source, of which a later layer overrides
an earlier one key by key. Keys are compared in lower case. `lay` puts a node at the end of its
key, and `ofTable?` reads the settings off the table in the end.
-/

namespace HealthWatch.Settings

namespace Node

mutual

/-- Lays a value over an older one: a table is merged with the older table, anything else replaces
it. An empty table leaves an older value as it is. -/
def merge (old : Option Node) : Node → Node
  | .table [] => old.getD (.table [])
  | .table (e :: es) => .table (mergeAll (entries old) (e :: es))
  | n => n

/-- Lays entries over a table; their keys are turned into lower case. Of keys that coincide then,
the last one counts here. Tables are read in no particular order, so which one counts is not
specified. -/
def mergeAll (old : List (String × Node)) : List (String × Node) → List (String × Node)
  | [] => old
  | (key, n) :: rest =>
    let k := Text.lowercase key
    mergeAll (Keyed.put k (merge (old.lookup k) n) old) rest

end

def index (count : Nat) (position : Int) : Nat :=
  if position < 0 then count - position.natAbs else position.toNat

/-- Changes one item of a list. A list that is too short is filled up with nothing. -/
def putItem (position : Int) (change : Option Node → Node) (items : List Node) : List Node :=
  let i := index items.length position
  let filled := items ++ List.replicate (i + 1 - items.length) .nothing
  filled.set i (change filled[i]?)

/-- The value with a node laid at the end of some steps into it. A value that a step cannot enter
gives way to an empty table or list. As an item, the node replaces what was there. -/
def place (n : Node) : List Key.Step → Option Node → Node
  | [], old => merge old n
  | .entry name :: steps, old =>
    .table (Keyed.put name (place n steps ((entries old).lookup name)) (entries old))
  | [.item i], old => .list (putItem i (fun _ => n) (items old))
  | .item i :: steps, old => .list (putItem i (place n steps) (items old))

def lay (table : List (String × Node)) (e : String × Node) : List (String × Node) :=
  let key := Key.ofText (Text.lowercase e.1)
  Keyed.put key.head (place e.2 key.steps (table.lookup key.head)) table

def layAll (table layer : List (String × Node)) : List (String × Node) :=
  layer.foldl lay table

end Node

def applyKey {α : Type} (table : List (String × Node)) (key : String) (convert : Node → Option α)
    (set : Settings → α → Settings) (s : Settings) : Option Settings :=
  match table.lookup key with
  | none => some s
  | some n => (convert n).map (set s)

def defaultTable : List (String × Node) := [
  ("initial_delay_ms", .whole default.initialDelay.toNat),
  ("period_ms", .whole default.period.toNat),
  ("pool_size", .whole default.poolSize.toNat),
  ("timeout_ms", .whole default.timeout.toNat),
  ("checks", .nothing),
  ("skips", .table [])]

/-- The settings of a merged table. Unknown keys are ignored. -/
def ofTable? (table : List (String × Node)) : Option Settings := do
  let s ← applyKey table "initial_delay_ms" Node.toWord? (fun s n => { s with initialDelay := n })
    default
  let s ← applyKey table "period_ms" Node.toWord? (fun s n => { s with period := n }) s
  let s ← applyKey table "pool_size" Node.toWord? (fun s n => { s with poolSize := n }) s
  let s ← applyKey table "timeout_ms" Node.toWord? (fun s n => { s with timeout := n }) s
  let s ← applyKey table "checks" Node.toAllowlist? (fun s l => { s with allowlist := l }) s
  applyKey table "skips" Node.toSkips? (fun s m => { s with skips := m }) s

end HealthWatch.Settings
