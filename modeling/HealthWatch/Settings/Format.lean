import HealthWatch.Ini
import HealthWatch.Json.Parser
import HealthWatch.Json5.Parser
import HealthWatch.Ron.Parser
import HealthWatch.Toml.Parser
import HealthWatch.Yaml.Parser

/-!
# Written forms of settings

A `FileFormat` is a way in which a file may be written; `FileFormat.table?` reads the table that a
file denotes, and refuses what the format does not allow.
-/

namespace HealthWatch.Settings

open Numeral

namespace Node

mutual

/-- The node of a stored value. An integer beyond 64 bits with a sign is taken as a floating point
number. -/
def ofJson : Json → Node
  | .null => .nothing
  | .bool b => .flag b
  | .integer i => if Width.i64.Holds i then .whole i else .real (.ofNat (decide (i < 0)) i.natAbs)
  | .real x => .real x
  | .string s => .text s
  | .array items => .list (ofItems items)
  | .object members => .table (ofMembers members)
  | .unreadable => .nothing

def ofItems : List Json → List Node
  | [] => []
  | j :: js => ofJson j :: ofItems js

/-- The entries of an object; of a repeated name the last member stays. -/
def ofMembers : List (String × Json) → List (String × Node)
  | [] => []
  | (name, j) :: ms =>
    let rest := ofMembers ms
    if (rest.lookup name).isSome then rest else (name, ofJson j) :: rest

end

/-- A table whose first key is this one holds the text of a date or time and stands for it. -/
def momentKey : String := "$__toml_private_datetime"

mutual

def ofToml? : Toml → Option Node
  | .flag b => some (.flag b)
  | .whole i => some (.whole i)
  | .real x => some (.real x)
  | .text s => some (.text s)
  | .moment s => some (.text s)
  | .list items => (ofTomlItems? items).map .list
  | .table _ entries => ofTomlTable? entries
  | .tables items => (ofTomlTables? items).map .list

/-- The node of a table, which may stand for a date or time. -/
def ofTomlTable? : List (String × Toml) → Option Node
  | [] => some (.table [])
  | (key, v) :: es =>
    if key = momentKey then
      match v with
      | .text s => (Toml.momentOf? s).map .text
      | _ => none
    else
      match ofToml? v, ofTomlEntries? es with
      | some n, some ns => some (.table ((key, n) :: ns))
      | _, _ => none

def ofTomlItems? : List Toml → Option (List Node)
  | [] => some []
  | v :: vs =>
    match ofToml? v, ofTomlItems? vs with
    | some n, some ns => some (n :: ns)
    | _, _ => none

def ofTomlEntries? : List (String × Toml) → Option (List (String × Node))
  | [] => some []
  | (key, v) :: es =>
    match ofToml? v, ofTomlEntries? es with
    | some n, some ns => some ((key, n) :: ns)
    | _, _ => none

def ofTomlTables? : List (List (String × Toml)) → Option (List Node)
  | [] => some []
  | t :: ts =>
    match ofTomlTable? t, ofTomlTables? ts with
    | some n, some ns => some (n :: ns)
    | _, _ => none

end

/-- The entries of a table; nothing else is a layer. -/
def layer? : Node → Option (List (String × Node))
  | .table entries => some entries
  | _ => none

end Node

inductive FileFormat where
  | ini
  | json
  | json5
  | ron
  | toml
  | yaml
  deriving DecidableEq, Repr

namespace FileFormat

def extensions : List (String × FileFormat) :=
  [("toml", .toml), ("json", .json), ("yaml", .yaml), ("yml", .yaml), ("ini", .ini), ("ron", .ron),
    ("json5", .json5)]

def ofExtension? (extension : String) : Option FileFormat :=
  extensions.lookup extension

def depthLimit : Nat := 127

def table? (format : FileFormat) (content : String) : Option (List (String × Node)) :=
  match format with
  | .json =>
    match Json.parse content with
    | some j => if j.readable && decide (j.depth ≤ depthLimit) then (Node.ofJson j).layer? else none
    | none => none
  | .json5 => (Json5.parse content).bind Node.layer?
  | .toml => ((Toml.parse content).bind Node.ofTomlTable?).bind Node.layer?
  | .yaml => Yaml.parse content
  | .ini => Ini.parse content
  | .ron => (Ron.parse content).bind Node.layer?

end FileFormat

end HealthWatch.Settings
