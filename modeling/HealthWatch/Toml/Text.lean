import HealthWatch.Numeral.Base
import HealthWatch.Toml.Basic

/-!
# Strings and keys of TOML

The parts of a document that are read character by character: blanks and comments, strings of all
four kinds, and keys.
-/

namespace HealthWatch.Toml

open Numeral (readCode?)

def skipBlanks (cs : List Char) : List Char :=
  cs.dropWhile fun c => c = ' ' || c = '\t'

def skipSpace : List Char → List Char
  | ' ' :: cs | '\t' :: cs | '\n' :: cs | '\r' :: '\n' :: cs => skipSpace cs
  | cs => cs

/-- A character that a comment or a string on one line may hold. -/
def isPrintable (c : Char) : Bool :=
  c = '\t' || (0x20 ≤ c.toNat && c.toNat ≠ 0x7F)

/-- Removes the rest of a line, which holds nothing but a comment, with its line break. -/
def endLine? (cs : List Char) : Option (List Char) :=
  let cs := skipBlanks cs
  let cs :=
    match cs with
    | '#' :: cs => cs.dropWhile isPrintable
    | cs => cs
  match cs with
  | [] => some []
  | '\n' :: cs => some cs
  | '\r' :: '\n' :: cs => some cs
  | _ => none

def skipLines : Nat → List Char → List Char
  | 0, cs => cs
  | fuel + 1, cs =>
    match skipBlanks cs with
    | '\n' :: cs => skipLines fuel cs
    | '\r' :: '\n' :: cs => skipLines fuel cs
    | '#' :: cs => skipLines fuel (cs.dropWhile isPrintable)
    | cs => cs

/-! ### Strings -/

def readEscape? : List Char → Option (Char × List Char)
  | 'b' :: cs => some ('\x08', cs)
  | 't' :: cs => some ('\t', cs)
  | 'n' :: cs => some ('\n', cs)
  | 'f' :: cs => some ('\x0c', cs)
  | 'r' :: cs => some ('\r', cs)
  | '"' :: cs => some ('"', cs)
  | '\\' :: cs => some ('\\', cs)
  | 'u' :: cs => readCode? 4 cs
  | 'U' :: cs => readCode? 8 cs
  | _ => none

/-- A string on one line after its opening quote; `acc` holds what was read, the last one first. -/
def readBasic? (acc : List Char) : Nat → List Char → Option (String × List Char)
  | 0, _ => none
  | fuel + 1, cs =>
    match cs with
    | '"' :: cs => some (String.ofList acc.reverse, cs)
    | '\\' :: cs => do
      let (c, cs) ← readEscape? cs
      readBasic? (c :: acc) fuel cs
    | c :: cs => if isPrintable c then readBasic? (c :: acc) fuel cs else none
    | [] => none

/-- The quotes that end a string of several lines: up to two of them belong to the string. -/
def closeMany? (quote : Char) (acc : List Char) (cs : List Char) :
    Option (String × List Char) :=
  let run := (cs.takeWhile (· = quote)).length
  if 3 ≤ run && run ≤ 5 then
    some (String.ofList (List.replicate (run - 3) quote ++ acc).reverse, cs.drop run)
  else none

/-- A string of several lines after its opening quotes. A backslash at the end of a line removes the
line break, and the blanks and line breaks after it. -/
def readLongBasic? (acc : List Char) : Nat → List Char → Option (String × List Char)
  | 0, _ => none
  | fuel + 1, cs =>
    match cs with
    | '"' :: '"' :: '"' :: _ => closeMany? '"' acc cs
    | '\\' :: rest =>
      match skipBlanks rest with
      | '\n' :: _ | '\r' :: '\n' :: _ =>
        readLongBasic? acc fuel (skipSpace rest)
      | _ => do
        let (c, cs) ← readEscape? rest
        readLongBasic? (c :: acc) fuel cs
    | '\r' :: '\n' :: cs => readLongBasic? ('\n' :: acc) fuel cs
    | c :: cs =>
      if isPrintable c || c = '\n' then readLongBasic? (c :: acc) fuel cs else none
    | [] => none

def readLiteral? (cs : List Char) : Option (String × List Char) :=
  match cs.span fun c => isPrintable c && c ≠ '\'' with
  | (body, '\'' :: cs) => some (String.ofList body, cs)
  | _ => none

def readLongLiteral? (acc : List Char) : Nat → List Char → Option (String × List Char)
  | 0, _ => none
  | fuel + 1, cs =>
    match cs with
    | '\'' :: '\'' :: '\'' :: _ => closeMany? '\'' acc cs
    | '\r' :: '\n' :: cs => readLongLiteral? ('\n' :: acc) fuel cs
    | c :: cs =>
      if isPrintable c || c = '\n' then readLongLiteral? (c :: acc) fuel cs else none
    | [] => none

/-- The line break right after the opening quotes of a string of several lines. -/
def dropBreak : List Char → List Char
  | '\n' :: cs => cs
  | '\r' :: '\n' :: cs => cs
  | cs => cs

/-! ### Keys -/

def isBare (c : Char) : Bool :=
  c.isAlphanum || c = '_' || c = '-'

def readPart? (cs : List Char) : Option (String × List Char) :=
  match cs with
  | '"' :: cs => readBasic? [] (cs.length + 1) cs
  | '\'' :: cs => readLiteral? cs
  | cs =>
    match cs.span isBare with
    | ([], _) => none
    | (part, cs) => some (String.ofList part, cs)

/-- The greatest number of the parts of a key, and of brackets and braces around a value. -/
def depthLimit : Nat := 79

def readParts? : Nat → List Char → Option (Key × List Char)
  | 0, _ => none
  | count + 1, cs => do
    let (part, cs) ← readPart? (skipBlanks cs)
    match skipBlanks cs with
    | '.' :: cs =>
      let (key, cs) ← readParts? count cs
      return (key.under part, cs)
    | cs => return (⟨[], part⟩, cs)

def readKey? (cs : List Char) : Option (Key × List Char) :=
  readParts? depthLimit cs

end HealthWatch.Toml
