import HealthWatch.Numeral.Decimal

/-!
# Dates and times of TOML

`readMoment?` reads a date, a time, or both with or without an offset, and gives its standard
form: a `T` before the time, a fraction of at most nine digits without zeros at the end, and `Z`
for an offset that was written so.
-/

namespace HealthWatch.Toml

open Numeral

/-- A part of a moment: its standard form, and the rest of the text. -/
abbrev Part := List Char × List Char

def readTwo? (least greatest : Nat) : List Char → Option (Nat × Part)
  | a :: b :: cs => do
    let n ← ofDigits? [a, b]
    if least ≤ n && n ≤ greatest then return (n, [a, b], cs) else none
  | _ => none

def twoDigits (n : Nat) : List Char :=
  [digitChar (n / 10), digitChar (n % 10)]

def daysIn (year month : Nat) : Nat :=
  if month = 2 then
    if year % 4 = 0 && (year % 100 ≠ 0 || year % 400 = 0) then 29 else 28
  else if month = 4 || month = 6 || month = 9 || month = 11 then 30
  else 31

def readDate? : List Char → Option Part
  | a :: b :: c :: d :: '-' :: cs => do
    let year ← ofDigits? [a, b, c, d]
    let (month, mm, cs) ← readTwo? 1 12 cs
    match cs with
    | '-' :: cs =>
      let (_, dd, cs) ← readTwo? 1 (daysIn year month) cs
      return ([a, b, c, d, '-'] ++ mm ++ '-' :: dd, cs)
    | _ => none
  | _ => none

/-- Reads a fraction of a second, if there is one. -/
def readFraction (cs : List Char) : Part :=
  match cs with
  | '.' :: rest =>
    let (ds, rest) := spanDigits rest
    let shown := ((ds.take 9).reverse.dropWhile (· = '0')).reverse
    if ds.isEmpty then ([], cs)
    else if shown.isEmpty then ([], rest)
    else ('.' :: shown, rest)
  | _ => ([], cs)

def readTime? (cs : List Char) : Option Part := do
  let (_, hh, cs) ← readTwo? 0 23 cs
  match cs with
  | ':' :: cs =>
    let (_, mm, cs) ← readTwo? 0 59 cs
    match cs with
    | ':' :: cs =>
      let (_, ss, cs) ← readTwo? 0 60 cs
      let (fraction, cs) := readFraction cs
      return (hh ++ ':' :: mm ++ ':' :: ss ++ fraction, cs)
    | _ => none
  | _ => none

inductive Place where
  | document
  /-- In a text that holds nothing else. -/
  | text
  deriving DecidableEq, Repr

def Place.offsetLimits : Place → Nat × Nat
  | .document => (23, 59)
  | .text => (99, 99)

/-- Reads an offset of at most a day, if there is one. An offset of zero has a plus sign. -/
def readOffset? (place : Place) (cs : List Char) : Option Part :=
  match cs with
  | 'Z' :: cs | 'z' :: cs => some (['Z'], cs)
  | '+' :: cs => shift '+' cs
  | '-' :: cs => shift '-' cs
  | cs => some ([], cs)
where
  shift (sign : Char) (cs : List Char) : Option Part := do
    let (hours, _, cs) ← readTwo? 0 place.offsetLimits.1 cs
    match cs with
    | ':' :: cs =>
      let (minutes, _, cs) ← readTwo? 0 place.offsetLimits.2 cs
      let total := 60 * hours + minutes
      let sign := if total = 0 then '+' else sign
      let shown := sign :: twoDigits (total / 60) ++ ':' :: twoDigits (total % 60)
      if total ≤ 24 * 60 then return (shown, cs) else none
    | _ => none

/-- What stands between a date and its time. -/
def dropDelimiter? : List Char → Option (List Char)
  | 'T' :: cs | 't' :: cs | ' ' :: cs => some cs
  | _ => none

def readMoment? (place : Place) (cs : List Char) : Option (String × List Char) :=
  match readDate? cs with
  | some (date, cs) =>
    match (dropDelimiter? cs).bind readTime? with
    | some (time, rest) =>
      (readOffset? place rest).map fun r => (String.ofList (date ++ 'T' :: time ++ r.1), r.2)
    | none => some (String.ofList date, cs)
  | none => (readTime? cs).map fun r => (String.ofList r.1, r.2)

/-- The standard form of the moment that a text denotes. -/
def momentOf? (text : String) : Option String :=
  match readMoment? .text text.toList with
  | some (m, []) => some m
  | _ => none

end HealthWatch.Toml
