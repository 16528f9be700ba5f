import HealthWatch.Numeral.Base
import HealthWatch.Yaml.Cursor

/-!
# Texts of YAML

Texts without quotes, and texts between quotes of either kind. Both may go on over several lines,
and their line ends are folded.
-/

namespace HealthWatch.Yaml

open Numeral

/-! ### Texts without quotes -/

/-- The characters that no text without quotes begins with. -/
def indicators : List Char :=
  [',', '[', ']', '\x7b', '\x7d', '&', '*', '!', '\'', '"', '%', '@', '\x60', '#']

/-- A text without quotes begins here; `flow` tells that brackets are around it. -/
def startsPlain (flow : Bool) : List Char → Bool
  | [] => false
  | c :: cs =>
    if c = '-' || c = '?' then !gapNext cs
    else if c = ':' then !gapNext cs && !(flow && cs.head?.any isFlow)
    else if c = '|' || c = '>' then flow
    else !(isBlank c || c = '\n' || indicators.contains c)

/-- The characters of a word without quotes: up to a blank or a character that ends the text. -/
def takeWord (flow : Bool) : List Char → List Char
  | [] => []
  | c :: cs =>
    if isBlank c || c = '\n' || (flow && isFlow c) then []
    else if c = ':' && (gapNext cs || (flow && cs.head?.any isFlow)) then []
    else c :: takeWord flow cs

/-- A hyphen stands before a character of brackets, which no word between brackets may. -/
def loneHyphen (flow : Bool) : List Char → Bool
  | '-' :: c :: _ => flow && isFlow c
  | _ => false

/-- Reads the rest of a text without quotes at the end of one of its words; `acc` holds what was
read, the last character first. Outside brackets, its lines start at the column `bound` or after. -/
def readPlainFrom? (flow : Bool) (bound : Nat) (acc : List Char) :
    Nat → Cursor → Option (List Char × Cursor)
  | 0, _ => none
  | fuel + 1, c => do
    let (count, next) ← c.crossLines? bound true
    let word := takeWord flow next.rest
    let outside := 0 < count && (next.atMarker || (!flow && next.column < bound))
    if word.isEmpty || outside || word.head? = some '#' then return (acc.reverse, c)
    else if loneHyphen flow next.rest then none
    else
      let gap := if count = 0 then c.rest.takeWhile isBlank else fold count
      readPlainFrom? flow bound (word.reverse ++ gap.reverse ++ acc) fuel (next.advance word.length)

def readPlain? (flow : Bool) (bound : Nat) (c : Cursor) : Option (List Char × Cursor) :=
  let word := takeWord flow c.rest
  if word.isEmpty || loneHyphen flow c.rest then none
  else readPlainFrom? flow bound word.reverse (c.rest.length + 1) (c.advance word.length)

/-! ### Texts between quotes -/

def readEscape? : List Char → Option (Char × Nat)
  | '0' :: _ => some ('\x00', 1)
  | 'a' :: _ => some ('\x07', 1)
  | 'b' :: _ => some ('\x08', 1)
  | 't' :: _ => some ('\t', 1)
  | '\t' :: _ => some ('\t', 1)
  | 'n' :: _ => some ('\n', 1)
  | 'v' :: _ => some ('\x0b', 1)
  | 'f' :: _ => some ('\x0c', 1)
  | 'r' :: _ => some ('\r', 1)
  | 'e' :: _ => some ('\x1b', 1)
  | ' ' :: _ => some (' ', 1)
  | '"' :: _ => some ('"', 1)
  | '/' :: _ => some ('/', 1)
  | '\\' :: _ => some ('\\', 1)
  | 'N' :: _ => some ('\u0085', 1)
  | '_' :: _ => some ('\u00A0', 1)
  | 'L' :: _ => some ('\u2028', 1)
  | 'P' :: _ => some ('\u2029', 1)
  | 'x' :: cs => (readCode? 2 cs).map fun r => (r.1, 3)
  | 'u' :: cs => (readCode? 4 cs).map fun r => (r.1, 5)
  | 'U' :: cs => (readCode? 8 cs).map fun r => (r.1, 9)
  | _ => none

def crossQuoted? (c : Cursor) : Option (Nat × Cursor) := do
  let (count, next) ← c.crossLines? c.floor false
  if 0 < count && (next.atMarker || next.column < c.floor) then none else return (count, next)

/-- Reads a text after its opening quote; `acc` holds what was read, the last character first. A
single quote inside single quotes is written twice. -/
def readQuotedFrom? (quote : Char) (acc : List Char) :
    Nat → Cursor → Option (List Char × Cursor)
  | 0, _ => none
  | fuel + 1, c =>
    match c.rest with
    | [] => none
    | x :: cs =>
      if x = quote then
        if quote = '\'' && cs.head? = some quote then
          readQuotedFrom? quote (quote :: acc) fuel (c.advance 2)
        else (c.advance 1).clear?.map fun c => (acc.reverse, c)
      else if x = '\\' && quote = '"' then
        if cs.head? = some '\n' then do
          let (count, next) ← crossQuoted? (c.advance 1)
          readQuotedFrom? quote (List.replicate (count - 1) '\n' ++ acc) fuel next
        else do
          let (e, n) ← readEscape? cs
          readQuotedFrom? quote (e :: acc) fuel (c.advance (n + 1))
      else if isBlank x || x = '\n' then do
        let (count, next) ← crossQuoted? c
        let gap := if count = 0 then c.rest.takeWhile isBlank else fold count
        readQuotedFrom? quote (gap.reverse ++ acc) fuel next
      else readQuotedFrom? quote (x :: acc) fuel (c.advance 1)

def readQuoted? (quote : Char) (c : Cursor) : Option (String × Cursor) :=
  (readQuotedFrom? quote [] (c.rest.length + 1) (c.advance 1)).map fun r =>
    (String.ofList r.1, r.2)

end HealthWatch.Yaml
