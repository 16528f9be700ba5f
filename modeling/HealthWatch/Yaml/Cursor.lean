import HealthWatch.Settings.Node

/-!
# Places in a document

A `Cursor` is a place in a YAML document: what follows it, where it stands, and what the document
has declared so far. Lines end with a line feed.
-/

namespace HealthWatch.Yaml

open Settings (Node)

/-! ### Characters -/

def isBlank (c : Char) : Bool :=
  c = ' ' || c = '\t'

def isFlow (c : Char) : Bool :=
  c = ',' || c = '[' || c = ']' || c = '\x7b' || c = '\x7d'

/-- A blank, the end of a line or the end of the text comes next. -/
def gapNext : List Char → Bool
  | [] => true
  | c :: _ => isBlank c || c = '\n'

/-- Nothing but blanks and a comment is left of the line. -/
def lineDone (cs : List Char) : Bool :=
  match cs.dropWhile isBlank with
  | [] => true
  | c :: _ => c = '\n' || c = '#'

/-- The text up to its first null character, with a line feed at the end of each line. -/
def lineFeeds : List Char → List Char
  | [] => []
  | '\x00' :: _ => []
  | '\r' :: '\n' :: cs => '\n' :: lineFeeds cs
  | '\r' :: cs => '\n' :: lineFeeds cs
  | c :: cs => c :: lineFeeds cs

/-! ### Cursors -/

/-- A place in a document. It is `fresh` if only blanks stand before it on its line. No line that
goes on with a text between quotes or with brackets starts before the column `floor`. An anchor has
no node while its node is being read. -/
structure Cursor where
  rest : List Char
  line : Nat := 0
  column : Nat := 0
  fresh : Bool := true
  floor : Nat := 0
  anchors : List (String × Option Node) := []
  handles : List (String × String) := []

namespace Cursor

def advance (c : Cursor) (n : Nat) : Cursor :=
  { c with rest := c.rest.drop n, column := c.column + n, fresh := false }

def pass (c : Cursor) : Cursor :=
  { c with column := c.column + 1 }

/-- The start of the next line, with `rest` to be set. -/
def breakLine (c : Cursor) : Cursor :=
  { c with line := c.line + 1, column := 0, fresh := true }

def skipBlanks (c : Cursor) : Cursor :=
  let n := (c.rest.takeWhile isBlank).length
  { c with rest := c.rest.drop n, column := c.column + n }

/-- The same place, if no comment begins there: a comment needs a blank before it. -/
def clear? (c : Cursor) : Option Cursor :=
  if c.rest.head? = some '#' then none else some c

/-- `skip?` on the text `rest` at the place `c`; `comment` tells that a comment has begun. -/
def skipFrom? (floor : Nat) (comment : Bool) (c : Cursor) : List Char → Option Cursor
  | [] => some { c with rest := [] }
  | x :: cs =>
    if x = '\n' then skipFrom? floor false c.breakLine cs
    else if comment || x = ' ' then skipFrom? floor comment c.pass cs
    else if x = '#' then skipFrom? floor true c.pass cs
    else if x = '\t' then
      if c.fresh && c.column < floor && !lineDone cs then none
      else skipFrom? floor false c.pass cs
    else some { c with rest := x :: cs }

/-- Removes blanks, comments and line ends. A line with more on it has no tab before the column
`floor`. -/
def skip? (floor : Nat) (c : Cursor) : Option Cursor :=
  skipFrom? floor false c c.rest

def crossFrom? (floor : Nat) (lax : Bool) (count : Nat) (c : Cursor) :
    List Char → Option (Nat × Cursor)
  | [] => some (count, { c with rest := [] })
  | x :: cs =>
    if x = '\n' then crossFrom? floor lax (count + 1) c.breakLine cs
    else if isBlank x then
      if x = '\t' && c.fresh && c.column < floor && !(lax && lineDone cs) then none
      else crossFrom? floor lax count c.pass cs
    else some (count, { c with rest := x :: cs })

/-- Removes blanks and line ends inside a text and counts the line ends. A line has no tab before
the column `floor`; `lax` allows it on a line that is empty. -/
def crossLines? (floor : Nat) (lax : Bool) (c : Cursor) : Option (Nat × Cursor) :=
  crossFrom? floor lax 0 c c.rest

/-- A mark between documents stands here. -/
def atMarker (c : Cursor) : Bool :=
  c.column = 0 &&
    match c.rest with
    | '-' :: '-' :: '-' :: cs | '.' :: '.' :: '.' :: cs => gapNext cs
    | _ => false

def atEnd (c : Cursor) : Bool :=
  c.rest.isEmpty || c.atMarker

end Cursor

/-- What stands for so many line ends in a text that is folded: a space for one, and otherwise one
line feed less. -/
def fold (count : Nat) : List Char :=
  if count = 1 then [' '] else List.replicate (count - 1) '\n'

end HealthWatch.Yaml
