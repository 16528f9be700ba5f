import HealthWatch.NameMap
import HealthWatch.Numeral.Binary64.Reader
import HealthWatch.Numeral.Binary64.Shortest
import HealthWatch.Numeral.Integer
import HealthWatch.Text.Lowercase

/-!
# Nodes

A `Node` is a value that a source of settings holds, whatever the source is written in.
`Node.toUnsigned?` and its companions read a node as what a setting needs: numbers are read from
texts, truth values and fractions too.
-/

namespace HealthWatch.Settings

open Numeral

/-- A value of a source of settings. A table keeps its keys in the order of the source. -/
inductive Node where
  | nothing
  | flag (b : Bool)
  | whole (i : Int)
  | real (x : Binary64)
  | text (s : String)
  | list (items : List Node)
  | table (entries : List (String × Node))

namespace Node

/-- The entries of a table; any other value has none. -/
def entries : Option Node → List (String × Node)
  | some (.table es) => es
  | _ => []

def items : Option Node → List Node
  | some (.list ns) => ns
  | _ => []

def ofText (s : String) : Node :=
  let lower := Text.lowercase s
  if lower = "true" then .flag true
  else if lower = "false" then .flag false
  else
    match Width.i64.read s with
    | .ok i => .whole i.val
    | .error _ =>
      match Binary64.read s with
      | .ok x => .real x
      | .error _ => .text s

/-- An unsigned integer of 64 bits. A fraction is rounded and clamped. -/
def toUnsigned? : Node → Option Nat
  | .flag b => some (if b then 1 else 0)
  | .whole i => if i < 0 then none else some i.toNat
  | .real x => some (x.toNatClamped (UInt64.size - 1))
  | .text s =>
    let lower := Text.lowercase s
    if lower = "true" || lower = "on" || lower = "yes" then some 1
    else if lower = "false" || lower = "off" || lower = "no" then some 0
    else
      match Width.u64.read s with
      | .ok n => some n.val.toNat
      | .error _ => none
  | _ => none

/-- A text. Numbers and truth values are taken as they are written. -/
def toText? : Node → Option String
  | .flag b => some (if b then "true" else "false")
  | .whole i => some (decimal i)
  | .real x => some x.render
  | .text s => some s
  | _ => none

def toWord? (n : Node) : Option UInt64 :=
  n.toUnsigned?.map UInt64.ofNat

def toAllowlist? : Node → Option (Option (List String))
  | .nothing => some none
  | .list items => (items.mapM toText?).map some
  | _ => none

def toSkip? (e : String × Node) : Option (String × UInt32) :=
  match e.2.toUnsigned? with
  | some n => if n < UInt32.size then some (e.1, UInt32.ofNat n) else none
  | none => none

def toSkips? : Node → Option (NameMap UInt32)
  | .table es => (es.mapM toSkip?).map NameMap.ofList
  | _ => none

end Node

end HealthWatch.Settings
