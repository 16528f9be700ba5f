import HealthWatch.Yaml.Properties

/-!
# Nodes between brackets

`readFlow?` reads a list or a mapping that is written between brackets. A pair by itself in a list
is a mapping of one entry.
-/

namespace HealthWatch.Yaml

open Settings (Node)

def skipFlow? (c : Cursor) : Option Cursor := do
  let c ← c.skip? c.floor
  if c.atEnd || c.column < c.floor then none else return c

/-- A colon that separates a key from its value. Behind quotes and brackets it needs no gap. -/
def valueNext (adjacent : Bool) : List Char → Bool
  | ':' :: cs => adjacent || gapNext cs || cs.head?.any isFlow
  | _ => false

def partEnds : List Char → Bool
  | c :: _ => c = ',' || c = ']' || c = '\x7d'
  | [] => true

def markNext : List Char → Bool
  | '?' :: cs => gapNext cs
  | _ => false

def dropMark? (c : Cursor) : Option Cursor :=
  if markNext c.rest then skipFlow? (c.advance 1) else some c

/-- Reads a text without quotes. The lines after it may start one column before the others. -/
def readFlowPlain? (bound : Nat) (p : Properties) (c : Cursor) : Option (Node × Cursor) :=
  if startsPlain true c.rest && bound ≤ c.column then do
    let (cs, d) ← readPlain? true bound c
    return (← ofTagged? p.tag? cs, { d with floor := min d.floor (bound - 1) })
  else if !p.isEmpty && (partEnds c.rest || valueNext false c.rest) then
    p.emptyNode?.map fun n => (n, c)
  else none

/-- The greatest number of brackets around a node. -/
def depthLimit : Nat := 255

mutual

/-- Reads a node with at most `depth` brackets around its parts. The flag tells that a colon may
follow it at once. -/
def readFlow? (bound depth : Nat) (p : Properties) : Nat → Cursor → Option (Node × Bool × Cursor)
  | 0, _ => none
  | fuel + 1, c =>
    match c.rest with
    | [] => none
    | x :: _ =>
      if x = '&' || x = '!' then do
        let (p, c) ← p.read? true c
        readFlow? bound depth p fuel (← skipFlow? c)
      else if x = '*' then do
        let (n, c) ← readAlias? c
        if p.isEmpty then return (n, false, c) else none
      else if x = '"' || x = '\'' then do
        let (s, c) ← readQuoted? x c
        return (.text s, true, c.settle p (.text s))
      else if x = '[' || x = '\x7b' then do
        if depth = 0 then none
        else
          let c ← (c.advance 1).clear?
          let (n, c) ←
            if x = '[' then readFlowItems? bound (depth - 1) [] fuel c
            else readFlowEntries? bound (depth - 1) [] fuel c
          return (n, true, c.settle p n)
      else do
        let (n, c) ← readFlowPlain? bound p c
        return (n, false, c.settle p n)

def readFlowValue? (bound depth : Nat) : Nat → Cursor → Option (Node × Cursor)
  | 0, _ => none
  | fuel + 1, c => do
    let c ← skipFlow? (← dropColon? c)
    if partEnds c.rest then return (.nothing, c)
    else
      let (n, _, c) ← readFlow? bound depth {} fuel c
      return (n, ← skipFlow? c)

/-- Reads an item of a list, up to what follows it. The key of a pair stands on one line with its
colon, unless it has a mark. -/
def readFlowItem? (bound depth : Nat) : Nat → Cursor → Option (Node × Cursor)
  | 0, _ => none
  | fuel + 1, c => do
    let (n, adjacent, d) ← readFlow? bound depth {} fuel (← dropMark? c)
    let d ← skipFlow? d
    let marked := markNext c.rest
    if valueNext adjacent d.rest then
      if marked || d.line = c.line then
        let (v, d) ← readFlowValue? bound depth fuel d
        return (tableOf [(← Key.ofNode? n, v)], d)
      else none
    else if marked then return (tableOf [(← Key.ofNode? n, .nothing)], d)
    else return (n, d)

/-- Reads the items of a list after its bracket or after a comma. -/
def readFlowItems? (bound depth : Nat) (acc : List Node) :
    Nat → Cursor → Option (Node × Cursor)
  | 0, _ => none
  | fuel + 1, c => do
    let c ← skipFlow? c
    if c.rest.head? = some ']' then return (.list acc.reverse, ← (c.advance 1).clear?)
    else
      let (n, d) ← readFlowItem? bound depth fuel c
      match d.rest with
      | ',' :: _ => readFlowItems? bound depth (n :: acc) fuel (← (d.advance 1).clear?)
      | ']' :: _ => return (.list (n :: acc).reverse, ← (d.advance 1).clear?)
      | _ => none

def readFlowEntry? (bound depth : Nat) : Nat → Cursor → Option (Key × Node × Cursor)
  | 0, _ => none
  | fuel + 1, c => do
    let (n, adjacent, d) ← readFlow? bound depth {} fuel (← dropMark? c)
    let k ← Key.ofNode? n
    let d ← skipFlow? d
    if valueNext adjacent d.rest then
      let (v, d) ← readFlowValue? bound depth fuel d
      return (k, v, d)
    else return (k, .nothing, d)

def readFlowEntries? (bound depth : Nat) (entries : List (Key × Node)) :
    Nat → Cursor → Option (Node × Cursor)
  | 0, _ => none
  | fuel + 1, c => do
    let c ← skipFlow? c
    if c.rest.head? = some '\x7d' then return (tableOf entries, ← (c.advance 1).clear?)
    else
      let (k, n, d) ← readFlowEntry? bound depth fuel c
      let entries ← addEntry? k n entries
      match d.rest with
      | ',' :: _ => readFlowEntries? bound depth entries fuel (← (d.advance 1).clear?)
      | '\x7d' :: _ => return (tableOf entries, ← (d.advance 1).clear?)
      | _ => none

end

end HealthWatch.Yaml
