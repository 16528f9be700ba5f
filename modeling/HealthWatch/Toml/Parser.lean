import HealthWatch.Toml.Moment
import HealthWatch.Toml.Number
import HealthWatch.Toml.Text

/-!
# Reading TOML

`Toml.parse` reads a document as the entries of its table. What may be added to which table is
decided by `Toml.addUnder?`, `Toml.openTable?` and `Toml.openNext?`.
-/

namespace HealthWatch.Toml

/-! ### Values -/

def isWordChar (c : Char) : Bool :=
  c.isAlphanum || c = '+' || c = '-' || c = '_' || c = '.'

mutual

/-- Reads a value with at most `depth` brackets and braces around its parts. -/
def readValue? (depth : Nat) : Nat → List Char → Option (Toml × List Char)
  | 0, _ => none
  | fuel + 1, cs =>
    match cs with
    | '"' :: '"' :: '"' :: cs =>
      (readLongBasic? [] (cs.length + 1) (dropBreak cs)).map fun r => (.text r.1, r.2)
    | '"' :: cs => (readBasic? [] (cs.length + 1) cs).map fun r => (.text r.1, r.2)
    | '\'' :: '\'' :: '\'' :: cs =>
      (readLongLiteral? [] (cs.length + 1) (dropBreak cs)).map fun r => (.text r.1, r.2)
    | '\'' :: cs => (readLiteral? cs).map fun r => (.text r.1, r.2)
    | '[' :: cs =>
      if depth = 0 then none else (readItems? (depth - 1) fuel [] cs).map fun r => (.list r.1, r.2)
    | '\x7b' :: cs =>
      if depth = 0 then none
      else
        match skipBlanks cs with
        | '\x7d' :: cs => some (.table .inline [], cs)
        | cs => (readEntries? (depth - 1) fuel [] cs).map fun r => (.table .inline r.1, r.2)
    | cs =>
      match readMoment? .document cs with
      | some (m, cs) => some (.moment m, cs)
      | none =>
        let (word, rest) := cs.span isWordChar
        (readWord? word).map fun v => (v, rest)

def readItems? (depth : Nat) : Nat → List Toml → List Char → Option (List Toml × List Char)
  | 0, _, _ => none
  | fuel + 1, acc, cs =>
    match skipLines (cs.length + 1) cs with
    | ']' :: cs => some (acc.reverse, cs)
    | cs => do
      let (v, cs) ← readValue? depth fuel cs
      match skipLines (cs.length + 1) cs with
      | ',' :: cs => readItems? depth fuel (v :: acc) cs
      | ']' :: cs => return ((v :: acc).reverse, cs)
      | _ => none

def readEntries? (depth : Nat) : Nat → Entries → List Char → Option (Entries × List Char)
  | 0, _, _ => none
  | fuel + 1, entries, cs => do
    let (key, cs) ← readKey? cs
    match cs with
    | '=' :: cs =>
      let (v, cs) ← readValue? depth fuel (skipBlanks cs)
      let entries ← addValue? key v .inline entries
      match skipBlanks cs with
      | ',' :: cs => readEntries? depth fuel entries cs
      | '\x7d' :: cs => return (entries, cs)
      | _ => none
    | _ => none

end

/-! ### Documents -/

structure State where
  root : Entries
  path : List String

def Key.parts (key : Key) : List String :=
  key.path ++ [key.last]

/-- Reads one statement at the head of a line, which is not empty. -/
def readStatement? (s : State) (cs : List Char) : Option (State × List Char) :=
  match cs with
  | '[' :: '[' :: cs => do
    let (key, cs) ← readKey? cs
    match cs with
    | ']' :: ']' :: cs => return (⟨← openNext? key s.root, key.parts⟩, ← endLine? cs)
    | _ => none
  | '[' :: cs => do
    let (key, cs) ← readKey? cs
    match cs with
    | ']' :: cs => return (⟨← openTable? key s.root, key.parts⟩, ← endLine? cs)
    | _ => none
  | cs => do
    let (key, cs) ← readKey? cs
    match cs with
    | '=' :: cs =>
      let (v, cs) ← readValue? depthLimit (cs.length + 1) (skipBlanks cs)
      return ({ s with root := ← addUnder? s.path key v s.root }, ← endLine? cs)
    | _ => none

def readDocument? (s : State) : Nat → List Char → Option Entries
  | 0, _ => none
  | fuel + 1, cs =>
    match skipLines (cs.length + 1) cs with
    | [] => some s.root
    | cs => do
      let (s, cs) ← readStatement? s cs
      readDocument? s fuel cs

/-- Without a mark for the order of bytes at the head. -/
def dropMark : List Char → List Char
  | '\uFEFF' :: cs => cs
  | cs => cs

def parse (text : String) : Option Entries :=
  let cs := dropMark text.toList
  readDocument? ⟨[], []⟩ (cs.length + 1) cs

end HealthWatch.Toml
