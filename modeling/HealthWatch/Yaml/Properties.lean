import HealthWatch.Keyed
import HealthWatch.Yaml.Scalar
import HealthWatch.Yaml.Text

/-!
# Properties and keys

A node may have an anchor, by which aliases after it repeat the node, and a tag. A key of a mapping
in a block stands with its colon on one line.
-/

namespace HealthWatch.Yaml

open Numeral
open Settings (Node)

/-! ### Anchors and aliases -/

def isNamePart (c : Char) : Bool :=
  !(isBlank c || c = '\n' || isFlow c || c = '\uFEFF')

def readAnchorName? (c : Cursor) : Option (String × Cursor) :=
  match c.rest.tail.takeWhile isNamePart with
  | [] => none
  | name => some (String.ofList name, c.advance (name.length + 1))

/-- Reads an alias. Inside the node that it repeats it is nothing. -/
def readAlias? (c : Cursor) : Option (Node × Cursor) := do
  let (name, c) ← readAnchorName? c
  let n? ← c.anchors.lookup name
  return (n?.getD .nothing, c)

/-! ### Tags -/

def isHandlePart (c : Char) : Bool :=
  c.isAlphanum || c = '_' || c = '-'

def isTagPart (c : Char) : Bool :=
  isHandlePart c || "#;/?:@&=+$.~*'()%".toList.contains c

def isTagText (c : Char) : Bool :=
  isTagPart c || c = '!' || c = ',' || c = '[' || c = ']'

def corePrefix : String := "tag:yaml.org,2002:"

def Tag.ofHandle (stem suffix : String) : Tag :=
  if stem = corePrefix then .core suffix else .foreign

/-- Reads a handle: a name between exclamation marks, or one mark alone. -/
def readHandle (cs : List Char) : String × List Char :=
  let (name, rest) := cs.tail.span isHandlePart
  match rest with
  | '!' :: rest => (String.ofList ('!' :: name ++ ['!']), rest)
  | _ => ("!", cs.tail)

/-- What a handle stands for. Two exclamation marks stand for the core set and one for itself,
unless the document declares something else; other handles have to be declared. -/
def Cursor.stem? (c : Cursor) (handle : String) : Option String :=
  match c.handles.lookup handle with
  | some stem => some stem
  | none => if handle = "!!" then some corePrefix else if handle = "!" then some "!" else none

def readTagText? (c : Cursor) : Option (Tag × Nat) :=
  match c.rest with
  | '!' :: '<' :: cs =>
    let (name, rest) := cs.span isTagText
    if rest.head? = some '>' then some (.foreign, name.length + 3) else none
  | cs => do
    let (handle, rest) := readHandle cs
    let suffix := rest.takeWhile isTagPart
    if suffix.isEmpty then
      if handle = "!" then return (.foreign, 1) else none
    else
      let stem ← c.stem? handle
      return (.ofHandle stem (String.ofList suffix), handle.length + suffix.length)

/-- Reads a tag; a blank or the end of a line follows it. -/
def readTag? (flow : Bool) (c : Cursor) : Option (Tag × Cursor) := do
  let (tag, n) ← readTagText? c
  let c := c.advance n
  if gapNext c.rest || (flow && c.rest.head?.any isFlow) then return (tag, c) else none

/-! ### Properties -/

/-- What stands in front of a node: an anchor, by its place among the anchors of the document, and a
tag. -/
structure Properties where
  anchor? : Option Nat := none
  tag? : Option Tag := none

namespace Properties

def isEmpty (p : Properties) : Bool :=
  p.anchor?.isNone && p.tag?.isNone

def emptyNode? (p : Properties) : Option Node :=
  if p.isEmpty then some .nothing else ofTagged? p.tag? []

/-- Reads a property at its mark; a node has one anchor and one tag at most. -/
def read? (flow : Bool) (p : Properties) (c : Cursor) : Option (Properties × Cursor) :=
  if c.rest.head? = some '&' && p.anchor?.isNone then do
    let (name, c) ← readAnchorName? c
    return ({ p with anchor? := some c.anchors.length },
      { c with anchors := (name, none) :: c.anchors })
  else if c.rest.head? = some '!' && p.tag?.isNone then do
    let (tag, c) ← readTag? flow c
    return ({ p with tag? := some tag }, c)
  else none

def readLine? (p : Properties) : Nat → Cursor → Option (Properties × Cursor)
  | 0, c => some (p, c)
  | count + 1, c =>
    match p.read? false c with
    | some (p, c) => p.readLine? count c.skipBlanks
    | none => some (p, c)

end Properties

/-- The place after a node with properties: its anchor has the node from here on. -/
def Cursor.settle (c : Cursor) (p : Properties) (n : Node) : Cursor :=
  match p.anchor? with
  | none => c
  | some k =>
    let i := c.anchors.length - 1 - k
    match c.anchors[i]? with
    | some (name, _) => { c with anchors := c.anchors.set i (name, some n) }
    | none => c

/-! ### Keys -/

/-- A key of a mapping. An integer differs from the text that is written like it. -/
inductive Key where
  | text (s : String)
  | whole (i : Int)
  deriving DecidableEq

namespace Key

def name : Key → String
  | .text s => s
  | .whole i => decimal i

/-- The key that a node is; other nodes are no keys. -/
def ofNode? : Node → Option Key
  | .text s => some (.text s)
  | .whole i => some (.whole i)
  | _ => none

end Key

/-- Adds an entry in front of the others; a key stands there once. -/
def addEntry? (k : Key) (n : Node) (entries : List (Key × Node)) : Option (List (Key × Node)) :=
  if entries.any (fun e => e.1 = k) then none else some ((k, n) :: entries)

/-- The table of entries, the last one first. -/
def tableOf (entries : List (Key × Node)) : Node :=
  .table (entries.reverse.foldl (fun t e => Keyed.put e.1.name e.2 t) [])

def colonNext : List Char → Bool
  | ':' :: cs => gapNext cs
  | _ => false

/-- Removes the colon after a key. Tabs alone do not separate it from a word. -/
def dropColon? (c : Cursor) : Option Cursor :=
  let c := c.advance 1
  let (blanks, rest) := c.rest.span isBlank
  let word := rest.head?.any isHandlePart
  if blanks.head? = some '\t' && !blanks.contains ' ' && word then none else some c

/-- The greatest number of characters of a key. -/
def keyLimit : Nat := 1024

def readKeyNode? (p : Properties) (c : Cursor) : Option (Node × Cursor) :=
  match c.rest with
  | [] => none
  | x :: _ =>
    if x = '*' then if p.isEmpty then readAlias? c else none
    else if x = '"' || x = '\'' then (readQuoted? x c).map fun r => (.text r.1, r.2)
    else if startsPlain false c.rest then do
      let (cs, d) ← readPlain? false (c.column + 1) c
      return (← ofTagged? p.tag? cs, d)
    else if colonNext c.rest && !p.isEmpty then p.emptyNode?.map fun n => (n, c)
    else none

def readKey? (c : Cursor) : Option (Key × Cursor) := do
  let (p, d) ← Properties.readLine? {} 2 c
  let (n, d) ← readKeyNode? p d
  let d := d.skipBlanks
  if d.line = c.line && d.column ≤ c.column + keyLimit && colonNext d.rest then
    return (← Key.ofNode? n, (← dropColon? d).settle p n)
  else none

end HealthWatch.Yaml
