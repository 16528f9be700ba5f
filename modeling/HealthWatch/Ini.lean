import HealthWatch.Keyed
import HealthWatch.Numeral.Base
import HealthWatch.Settings.Node
import HealthWatch.Text.Blank

/-!
# Reading INI

A document is a list of keys with values, all of which are texts, and of sections in brackets. The
keys after the head of a section belong to it. `Ini.parse` reads a document as a table with one
table for each section.
-/

namespace HealthWatch.Ini

open Numeral
open Settings (Node)

/-! ### Texts -/

/-- Removes white space. The flag tells whether what follows is the first character of a line. -/
def skipSpace (fresh : Bool) : List Char → Bool × List Char
  | [] => (fresh, [])
  | c :: cs =>
    if c = '\n' then skipSpace true cs
    else if Text.isBlank c then skipSpace false cs
    else (fresh, c :: cs)

def skipBlanks (cs : List Char) : List Char :=
  cs.dropWhile fun c => Text.isBlank c && c ≠ '\n' && c ≠ '\r'

/-- Reads an escape after its backslash; the end of a line stands for nothing. -/
def readEscape? : List Char → Option (List Char × List Char)
  | '0' :: cs => some (['\x00'], cs)
  | 'a' :: cs => some (['\x07'], cs)
  | 'b' :: cs => some (['\x08'], cs)
  | 't' :: cs => some (['\t'], cs)
  | 'r' :: cs => some (['\r'], cs)
  | 'n' :: cs => some (['\n'], cs)
  | '\n' :: cs => some ([], cs)
  | 'x' :: cs => (readCode? 4 cs).map fun r => ([r.1], r.2)
  | c :: cs => some ([c], cs)
  | [] => none

/-- Reads up to a character that ends the text, which stays. `mayEnd` allows the end of the document
instead; `acc` holds what was read, the last one first. -/
def readUntil? (ends : List Char) (mayEnd : Bool) (acc : List Char) :
    Nat → List Char → Option (List Char × List Char)
  | 0, _ => none
  | fuel + 1, cs =>
    match cs with
    | [] => if mayEnd then some (acc.reverse, []) else none
    | c :: rest =>
      if ends.contains c then some (acc.reverse, cs)
      else if c = '\\' then do
        let (read, rest) ← readEscape? rest
        readUntil? ends mayEnd (read.reverse ++ acc) fuel rest
      else readUntil? ends mayEnd (c :: acc) fuel rest

def readClosed? (ends : List Char) (cs : List Char) : Option (List Char × List Char) :=
  readUntil? ends false [] (cs.length + 1) cs

def trimEnd (cs : List Char) : List Char :=
  (cs.reverse.dropWhile Text.isBlank).reverse

/-- Reads the rest of a value after the part in `acc`: quoted parts, and then what is left of the
line. `start` tells that nothing has been read. -/
def readParts? (start : Bool) (acc : List Char) :
    Nat → List Char → Option (List Char × List Char)
  | 0, _ => none
  | fuel + 1, cs =>
    match cs with
    | [] => some (acc, [])
    | '"' :: cs => do
      let (part, cs) ← readClosed? ['"'] cs
      readParts? false (acc ++ part) fuel cs.tail
    | '\'' :: cs => do
      let (part, cs) ← readClosed? ['\''] cs
      readParts? false (acc ++ part) fuel cs.tail
    | cs => do
      let (part, cs) ← readUntil? ['\n', '\r'] true [] (cs.length + 1) cs
      return (acc ++ (if start then Text.trimChars part else trimEnd part), cs)

def readValue? (cs : List Char) : Option (String × List Char) :=
  let cs := skipBlanks cs
  (readParts? true [] (cs.length + 1) cs).map fun r => (String.ofList r.1, r.2)

/-! ### Documents -/

structure State where
  entries : List (String × Node)
  current? : Option String

namespace State

/-- Opens a section, which has nothing of a section of the same name before it. -/
def openSection (s : State) (name : String) : State :=
  ⟨Keyed.put name (.table []) s.entries, some name⟩

/-- Adds a value to the section in force; of a repeated key the last value stays. -/
def add (s : State) (key value : String) : State :=
  match s.current? with
  | none => { s with entries := Keyed.put key (.text value) s.entries }
  | some name =>
    let inner := Keyed.put key (.text value) (Node.entries (s.entries.lookup name))
    { s with entries := Keyed.put name (.table inner) s.entries }

end State

/-- Reads statements up to the end of the document. A comment starts its line. -/
def readDocument? (s : State) (fresh : Bool) : Nat → List Char → Option (List (String × Node))
  | 0, _ => none
  | fuel + 1, cs =>
    match skipSpace fresh cs with
    | (_, []) => some s.entries
    | (fresh, c :: cs) =>
      if c = ';' || c = '#' then
        if fresh then readDocument? s true fuel (cs.dropWhile (· ≠ '\n')).tail else none
      else if c = '[' then do
        let (name, cs) ← readClosed? [']'] cs
        readDocument? (s.openSection (String.ofList (Text.trimChars name))) false fuel cs.tail
      else do
        let (key, cs) ← readClosed? ['=', ':'] (c :: cs)
        let key := Text.trimChars key
        if key.isEmpty then none
        else do
          let (value, cs) ← readValue? cs.tail
          readDocument? (s.add (String.ofList key) value) false fuel cs

def parse (text : String) : Option (List (String × Node)) :=
  readDocument? ⟨[], none⟩ true (text.length + 1) text.toList

end HealthWatch.Ini
