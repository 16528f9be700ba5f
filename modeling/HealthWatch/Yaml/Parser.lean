import HealthWatch.Yaml.Flow
import HealthWatch.Yaml.Lines

/-!
# Reading YAML

`Yaml.parse` reads a text with one document, which is a mapping; a text without a document is an
empty mapping. A block is a list or a mapping whose parts start at one column, and what belongs to a
part starts after that column.
-/

namespace HealthWatch.Yaml

open Settings (Node)

/-! ### Blocks -/

def itemNext : List Char → Bool
  | '-' :: cs => gapNext cs
  | _ => false

/-- The place after the mark of an item. Tabs do not separate the mark from another one. -/
def dropItemMark? (c : Cursor) : Option Cursor :=
  let d := c.advance 1
  let (blanks, rest) := d.rest.span isBlank
  let wide := rest.head?.any fun x => x = '\n' || x = '#' || isFlow x
  if blanks.contains '\t' && itemNext rest then none
  else some { d with floor := if wide then c.column + 1 else c.column }

/-- The place after the mark of a key, which no tab follows. -/
def dropKeyMark? (c : Cursor) : Option Cursor :=
  let d := c.advance 1
  if (d.rest.takeWhile isBlank).contains '\t' then none else some { d with floor := c.column }

def goesOn (column : Nat) (c : Cursor) : Bool :=
  !c.atEnd && c.fresh && c.column = column

def blockEnds (column : Nat) (c : Cursor) : Bool :=
  c.atEnd || (c.fresh && c.column ≤ column)

def readScalar? (bound : Nat) (p : Properties) (c : Cursor) : Option (Node × Cursor) :=
  match c.rest with
  | [] => none
  | x :: _ =>
    if x = '*' then if p.isEmpty then readAlias? c else none
    else if x = '"' || x = '\'' then (readQuoted? x c).map fun r => (.text r.1, r.2)
    else if x = '|' || x = '>' then
      (readLines? (x = '>') bound c).map fun r => (.text r.1, r.2)
    else if startsPlain false c.rest then do
      let (cs, d) ← readPlain? false bound c
      return (← ofTagged? p.tag? cs, d)
    else none

mutual

/-- Reads a node whose lines start at the column `bound` or after. A list may start one column
before if it is `flush`, and another block may start on this line if it is `compact`. -/
def readNode? (bound : Nat) (flush compact : Bool) (p : Properties) :
    Nat → Cursor → Option (Node × Cursor)
  | 0, _ => none
  | fuel + 1, c => do
    let c ← c.skip? bound
    let starts := flush && c.column + 1 = bound && itemNext c.rest
    if !c.atEnd && (!c.fresh || bound ≤ c.column || starts) then
      if (c.fresh || compact) && itemNext c.rest then
        let (n, c) ← readItems? c.column [] fuel c
        return (n, c.settle p n)
      else if (c.fresh || compact) && (markNext c.rest || (readKey? c).isSome) then
        let (n, c) ← readEntries? c.column [] fuel c
        return (n, c.settle p n)
      else if c.rest.head? = some '&' || c.rest.head? = some '!' then
        let (p, c) ← p.read? false c
        readNode? bound flush false p fuel c
      else if c.rest.head? = some '[' || c.rest.head? = some '\x7b' then
        let (n, _, c) ← readFlow? bound depthLimit p fuel c
        return (n, c)
      else
        let (n, c) ← readScalar? bound p c
        return (n, c.settle p n)
    else
      let n ← p.emptyNode?
      return (n, c.settle p n)
termination_by structural fuel => fuel

/-- Reads the items of a list at its column; `acc` holds those before, the last one first. -/
def readItems? (column : Nat) (acc : List Node) : Nat → Cursor → Option (Node × Cursor)
  | 0, _ => none
  | fuel + 1, c => do
    let (n, c) ← readNode? (column + 1) false true {} fuel (← dropItemMark? c)
    let c ← c.skip? (column + 1)
    if goesOn column c && itemNext c.rest then readItems? column (n :: acc) fuel c
    else if blockEnds column c then return (.list (n :: acc).reverse, c)
    else none
termination_by structural fuel => fuel

def readEntries? (column : Nat) (entries : List (Key × Node)) :
    Nat → Cursor → Option (Node × Cursor)
  | 0, _ => none
  | fuel + 1, c => do
    let (k, n, c) ←
      if markNext c.rest then readMarked? column fuel c else readEntry? column fuel c
    let entries ← addEntry? k n entries
    let c ← c.skip? (column + 1)
    if goesOn column c then readEntries? column entries fuel c
    else if blockEnds column c then return (tableOf entries, c)
    else none
termination_by structural fuel => fuel

def readEntry? (column : Nat) : Nat → Cursor → Option (Key × Node × Cursor)
  | 0, _ => none
  | fuel + 1, c => do
    let (k, c) ← readKey? c
    let c := { c with floor := column + 1 }
    let (n, c) ← readNode? (column + 1) true false {} fuel c
    return (k, n, c)
termination_by structural fuel => fuel

/-- Reads an entry whose key has a mark. Its value has a line of its own. -/
def readMarked? (column : Nat) : Nat → Cursor → Option (Key × Node × Cursor)
  | 0, _ => none
  | fuel + 1, c => do
    let (n, c) ← readNode? (column + 1) true true {} fuel (← dropKeyMark? c)
    let k ← Key.ofNode? n
    let c ← c.skip? (column + 1)
    if goesOn column c && colonNext c.rest then
      let c := { ← dropColon? c with floor := column + 1 }
      let (v, c) ← readNode? (column + 1) true true {} fuel c
      return (k, v, c)
    else return (k, .nothing, c)
termination_by structural fuel => fuel

end

/-! ### Documents -/

/-- Removes the marks of the ends of documents, at most so many. -/
def skipEnds? : Nat → Cursor → Option Cursor
  | 0, _ => none
  | count + 1, c => do
    let c ← c.skip? 0
    if c.atMarker && c.rest.head? = some '.' then
      let c := c.advance 3
      if lineDone c.rest then skipEnds? count c else none
    else return c

/-- What stands before a document: its version, what a handle stands for, or something else, which
counts as a handle without a name. -/
inductive Directive where
  | version
  | handle (name stem : String)

def dropVersion? (cs : List Char) : Option (List Char) :=
  let (major, rest) := cs.span Char.isDigit
  match rest with
  | '.' :: rest =>
    let (minor, rest) := rest.span Char.isDigit
    let fits (ds : List Char) := !ds.isEmpty && ds.length ≤ 9
    if fits major && fits minor then some rest else none
  | _ => none

def readHandleLine? (cs : List Char) : Option (Directive × List Char) :=
  let (handle, rest) := readHandle cs
  let (gap, rest) := rest.span isBlank
  let (stem, rest) := rest.span isTagText
  if cs.head? ≠ some '!' || gap.isEmpty || stem.isEmpty || !gapNext rest then none
  else some (.handle handle (String.ofList stem), rest)

def readDirective? (cs : List Char) : Option (Directive × List Char) := do
  let (name, rest) := cs.span isHandlePart
  if name.isEmpty || !gapNext rest then none
  else
    let text := rest.dropWhile isBlank
    let (d, rest) ←
      match String.ofList name with
      | "YAML" => (dropVersion? text).map fun rest => (Directive.version, rest)
      | "TAG" => readHandleLine? text
      | _ => some (.handle "" "", text.dropWhile (· ≠ '\n'))
    if lineDone rest && rest.head? ≠ some '#' then return (d, rest.dropWhile (· ≠ '\n')) else none

/-- Reads directives, each at the start of a line. The version is given once at most, and so is what
a handle stands for. -/
def readDirectives? (versioned : Bool) : Nat → Cursor → Option Cursor
  | 0, _ => none
  | fuel + 1, c => do
    let c ← c.skip? 0
    if c.column = 0 && c.rest.head? = some '%' then
      let (d, rest) ← readDirective? c.rest.tail
      let c := { c with rest := rest, column := 1 }
      match d with
      | .version => if versioned then none else readDirectives? true fuel c
      | .handle name stem =>
        if (c.handles.lookup name).isSome then none
        else readDirectives? versioned fuel { c with handles := (name, stem) :: c.handles }
    else return c

/-- Reads a document. A mark has to stand before it if it has directives. -/
def readDocument? (c : Cursor) : Option (Node × Cursor) := do
  let start ← readDirectives? false (c.rest.length + 1) c
  let fuel := 4 * c.rest.length + 8
  if start.atMarker && start.rest.head? = some '-' then
    readNode? 0 false false {} fuel (start.advance 3)
  else if start.rest.length < c.rest.length then none
  else readNode? 0 false false {} fuel start

def parse (text : String) : Option (List (String × Node)) := do
  let cs := lineFeeds text.toList
  let c ← skipEnds? (cs.length + 1) { rest := cs }
  if c.rest.isEmpty then return []
  else
    let (n, c) ← readDocument? c
    let c ← skipEnds? (c.rest.length + 1) c
    match n with
    | .table entries => if c.rest.isEmpty then return entries else none
    | _ => none

end HealthWatch.Yaml
