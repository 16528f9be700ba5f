import HealthWatch.Json.Parser
import HealthWatch.Keyed
import HealthWatch.Numeral.Binary64.Reader
import HealthWatch.Numeral.Integer
import HealthWatch.Ron.Text
import HealthWatch.Settings.Node

/-!
# Reading RON

`Ron.parse` reads one value with white space and comments around it. A structure with named fields
is a table, as is a map whose keys are texts; other structures and tuples are lists, and a name by
itself, like a value that is missing, is nothing.
-/

namespace HealthWatch.Ron

open Numeral
open Settings (Node)

/-! ### Numbers -/

def isIntegerPart (c : Char) : Bool :=
  (hexValue? c).isSome || c = '_'

def isRealPart (c : Char) : Bool :=
  c.isDigit || c = 'e' || c = 'E' || c = '.' || c = '+' || c = '-' || c = '_'

def readMagnitude? (cs : List Char) : Option (Nat × List Char) := do
  let (base, cs) :=
    match cs with
    | '0' :: 'x' :: cs => (16, cs)
    | '0' :: 'b' :: cs => (2, cs)
    | '0' :: 'o' :: cs => (8, cs)
    | cs => (10, cs)
  match cs.span isIntegerPart with
  | ([], _) | ('_' :: _, _) => none
  | (ds, rest) => return (← ofBase? base (ds.filter (· ≠ '_')), rest)

/-- Reads an integer: without a sign one of 64 bits, else one of 64 bits with a sign. -/
def readInteger? (cs : List Char) : Option (Int × List Char) :=
  let within (w : Width) (i : Int) (rest : List Char) :=
    if w.Holds i then some (i, rest) else none
  match cs with
  | '+' :: cs => do
    let (n, rest) ← readMagnitude? cs
    within .i64 n rest
  | '-' :: cs => do
    let (n, rest) ← readMagnitude? cs
    within .i64 (-n) rest
  | cs => do
    let (n, rest) ← readMagnitude? cs
    within .u64 n rest

def readNonFinite? (cs : List Char) : Option (Binary64 × List Char) :=
  let (negative, cs) :=
    match cs with
    | '+' :: cs => (false, cs)
    | '-' :: cs => (true, cs)
    | cs => (false, cs)
  match dropWord? "inf" cs with
  | some cs => some (.infinite negative, cs)
  | none => (dropWord? "NaN" cs).map fun cs => (.nan, cs)

def readReal? (cs : List Char) : Option (Binary64 × List Char) :=
  match readNonFinite? cs with
  | some r => some r
  | none =>
    let (word, rest) := cs.span isRealPart
    if word.contains '_' then none
    else
      match Binary64.readChars word with
      | .ok x => some (x, rest)
      | .error _ => none

def looksReal (cs : List Char) : Bool :=
  let body :=
    match cs with
    | '+' :: cs | '-' :: cs => cs
    | cs => cs
  (body.takeWhile isIntegerPart).length < (body.takeWhile isRealPart).length

/-- The node of an integer. One beyond 64 bits with a sign is taken as a floating point number. -/
def wholeNode (i : Int) : Node :=
  if Width.i64.Holds i then .whole i else .real (.ofNat (decide (i < 0)) i.natAbs)

/-- Reads a number. What does not fit an integer is read as a floating point number. -/
def readNumber? (cs : List Char) : Option (Node × List Char) :=
  match if looksReal cs then none else readInteger? cs with
  | some (i, rest) => some (wholeNode i, rest)
  | none => (readReal? cs).map fun r => (.real r.1, r.2)

/-! ### Values -/

def readConstant? (cs : List Char) : Option (Node × List Char) :=
  [("true", Node.flag true), ("false", .flag false), ("None", .nothing),
    ("inf", .real (.infinite false)), ("NaN", .real .nan)].findSome? fun (word, n) =>
      (dropWord? word cs).map fun rest => (n, rest)

/-- After an item: the rest at the closing character or at the next item. -/
def nextItem? (close : Char) (cs : List Char) : Option (List Char) := do
  match ← skip? cs with
  | ',' :: cs => skip? cs
  | c :: cs => if c = close then return c :: cs else none
  | [] => none

def isNamed (cs : List Char) : Bool :=
  match readWord? cs with
  | some (_, cs) => ((skip? cs).bind List.head?) = some ':'
  | none => false

mutual

/-- Reads a value with at most `depth` others around its parts. -/
def readValue? (depth : Nat) : Nat → List Char → Option (Node × List Char)
  | 0, _ => none
  | fuel + 1, cs =>
    match readConstant? cs with
    | some r => some r
    | none =>
      match dropWord? "Some" cs with
      | some cs => do
        match ← skip? cs with
        | '(' :: cs =>
          let (n, cs) ← readInner? depth fuel (← skip? cs)
          match ← nextItem? ')' cs with
          | ')' :: cs => return (n, cs)
          | _ => none
        | _ => none
      | none =>
        match readWord? cs with
        | some (_, cs) => do
          match ← skip? cs with
          | '(' :: cs => readStructure? depth fuel cs
          | cs => return (.nothing, cs)
        | none =>
          match cs with
          | '(' :: ')' :: cs => some (.nothing, cs)
          | '(' :: cs => readStructure? depth fuel cs
          | '[' :: cs => do
            let (items, cs) ← readItems? depth ']' fuel [] (← skip? cs)
            return (.list items, cs)
          | '\x7b' :: cs => do
            let (entries, cs) ← readEntries? depth fuel [] (← skip? cs)
            return (.table entries, cs)
          | c :: _ =>
            if c.isDigit || c = '+' || c = '-' then readNumber? cs
            else if c = '.' then (readReal? cs).map fun r => (.real r.1, r.2)
            else (readText? cs).map fun r => (.text r.1, r.2)
          | [] => none

def readInner? (depth : Nat) : Nat → List Char → Option (Node × List Char)
  | 0, _ => none
  | fuel + 1, cs => if depth = 0 then none else readValue? (depth - 1) fuel cs

def readStructure? (depth : Nat) : Nat → List Char → Option (Node × List Char)
  | 0, _ => none
  | fuel + 1, cs => do
    let cs ← skip? cs
    if isNamed cs then
      let (entries, cs) ← readFields? depth fuel [] cs
      return (.table entries, cs)
    else
      let (items, cs) ← readItems? depth ')' fuel [] cs
      return (.list items, cs)

def readItems? (depth : Nat) (close : Char) :
    Nat → List Node → List Char → Option (List Node × List Char)
  | 0, _, _ => none
  | fuel + 1, acc, cs =>
    if cs.head? = some close then some (acc.reverse, cs.tail)
    else do
      let (n, cs) ← readInner? depth fuel cs
      readItems? depth close fuel (n :: acc) (← nextItem? close cs)

def readFields? (depth : Nat) :
    Nat → List (String × Node) → List Char → Option (List (String × Node) × List Char)
  | 0, _, _ => none
  | fuel + 1, entries, cs =>
    match cs with
    | ')' :: cs => some (entries, cs)
    | cs => do
      let (name, cs) ← readWord? cs
      match ← skip? cs with
      | ':' :: cs =>
        let (n, cs) ← readInner? depth fuel (← skip? cs)
        readFields? depth fuel (Keyed.put name n entries) (← nextItem? ')' cs)
      | _ => none

def readEntries? (depth : Nat) :
    Nat → List (String × Node) → List Char → Option (List (String × Node) × List Char)
  | 0, _, _ => none
  | fuel + 1, entries, cs =>
    match cs with
    | '\x7d' :: cs => some (entries, cs)
    | cs => do
      let (name, cs) ← readText? cs
      match ← skip? cs with
      | ':' :: cs =>
        let (n, cs) ← readInner? depth fuel (← skip? cs)
        readEntries? depth fuel (Keyed.put name n entries) (← nextItem? '\x7d' cs)
      | _ => none

end

/-! ### Documents -/

/-- The extensions of the language that a document may ask for. None of them changes a value. -/
def extensions : List String :=
  ["unwrap_newtypes", "implicit_some", "unwrap_variant_newtypes"]

def dropSign? (sign : String) (cs : List Char) : Option (List Char) := do
  skip? (← Json.dropWord? sign.toList cs)

def dropExtensions? : Nat → List Char → Option (List Char)
  | 0, _ => none
  | fuel + 1, cs => do
    let (name, cs) ← readWord? cs
    if extensions.contains name then
      match ← nextItem? ')' cs with
      | ')' :: cs => return ')' :: cs
      | cs => dropExtensions? fuel cs
    else none

/-- Removes the attributes at the head of a document, at most so many. -/
def dropAttributes? : Nat → List Char → Option (List Char)
  | 0, cs => some cs
  | count + 1, cs =>
    match cs with
    | '#' :: _ => do
      let cs ← dropSign? "#" cs
      let cs ← dropSign? "!" cs
      let cs ← dropSign? "[" cs
      let cs ← dropSign? "enable" cs
      let cs ← dropSign? "(" cs
      let cs ← dropExtensions? (cs.length + 1) cs
      let cs ← dropSign? ")" cs
      dropAttributes? count (← dropSign? "]" cs)
    | cs => some cs

/-- The greatest number of values around another. -/
def depthLimit : Nat := 128

def parse (text : String) : Option Node := do
  let cs ← skip? text.toList
  let cs ← dropAttributes? (cs.length + 1) cs
  let (n, rest) ← readValue? depthLimit (4 * cs.length + 4) cs
  match ← skip? rest with
  | [] => return n
  | _ => none

end HealthWatch.Ron
