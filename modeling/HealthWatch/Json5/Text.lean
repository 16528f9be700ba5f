import HealthWatch.Numeral.Base
import HealthWatch.Text.Blank
import HealthWatch.Text.Letter

/-!
# Texts of JSON5

Space and comments, strings between quotes of either kind, and names without quotes.
-/

namespace HealthWatch.Json5

open Numeral

/-! ### Space -/

def isSpace (c : Char) : Bool :=
  (Text.isBlank c && c ≠ '\u0085') || c = '\uFEFF'

def isLineEnd (c : Char) : Bool :=
  c = '\n' || c = '\r' || c = '\u2028' || c = '\u2029'

/-- What follows the end of a comment of several lines. -/
def afterComment? : List Char → Option (List Char)
  | [] => none
  | '*' :: '/' :: cs => some cs
  | _ :: cs => afterComment? cs

def dropComment? : List Char → Option (List Char)
  | '/' :: '/' :: cs => some (cs.dropWhile fun c => !isLineEnd c)
  | '/' :: '*' :: cs => afterComment? cs
  | _ => none

/-- Removes white space and at most so many comments. -/
def skipSpaces : Nat → List Char → List Char
  | 0, cs => cs.dropWhile isSpace
  | count + 1, cs =>
    let cs := cs.dropWhile isSpace
    match dropComment? cs with
    | some cs => skipSpaces count cs
    | none => cs

def skip (cs : List Char) : List Char :=
  skipSpaces cs.length cs

/-! ### Strings -/

/-- The characters that a backslash and this character stand for by themselves. -/
def escaped? (c : Char) : Option Char :=
  match c with
  | 'b' => some '\x08'
  | 'f' => some '\x0c'
  | 'n' => some '\n'
  | 'r' => some '\r'
  | 't' => some '\t'
  | 'v' => some '\x0b'
  | '0' => some '\x00'
  | c => if c.isDigit || isLineEnd c then none else some c

/-- Four hexadecimal digits as a character. A first half of a character is followed by the escape of
its second half. -/
def readUnit? (cs : List Char) : Option (Char × List Char) := do
  let (n, cs) ← readHex? 4 cs
  if isHighHalf n then
    match cs with
    | '\\' :: 'u' :: cs =>
      let (low, cs) ← readHex? 4 cs
      if isLowHalf low then return (joinHalves n low, cs) else none
    | _ => none
  else return (← charOf? n, cs)

/-- Reads a string after its opening quote; `acc` holds what was read, the last one first. -/
def readString? (quote : Char) (acc : List Char) : Nat → List Char → Option (String × List Char)
  | 0, _ => none
  | fuel + 1, cs =>
    match cs with
    | [] => none
    | '\\' :: 'u' :: cs => do
      let (c, cs) ← readUnit? cs
      readString? quote (c :: acc) fuel cs
    | '\\' :: 'x' :: cs => do
      let (c, cs) ← readCode? 2 cs
      readString? quote (c :: acc) fuel cs
    | '\\' :: '\r' :: '\n' :: cs => readString? quote acc fuel cs
    | '\\' :: c :: cs =>
      if isLineEnd c then readString? quote acc fuel cs
      else do readString? quote ((← escaped? c) :: acc) fuel cs
    | c :: cs =>
      if c = quote then some (String.ofList acc.reverse, cs)
      else if c = '\\' || isLineEnd c then none
      else readString? quote (c :: acc) fuel cs

/-! ### Names -/

def isNameStart (c : Char) : Bool :=
  c = '$' || c = '_' || Text.isLetter c

def isNamePart (c : Char) : Bool :=
  isNameStart c || c = '\u200C' || c = '\u200D' || Text.isMark c

def readNameFrom? (acc : List Char) : Nat → List Char → Option (String × List Char)
  | 0, _ => none
  | fuel + 1, cs =>
    match cs with
    | '\\' :: 'u' :: cs => do
      let (c, cs) ← readUnit? cs
      readNameFrom? (c :: acc) fuel cs
    | c :: rest =>
      if isNamePart c then readNameFrom? (c :: acc) fuel rest
      else some (String.ofList acc.reverse, cs)
    | [] => some (String.ofList acc.reverse, [])

/-- Reads a name between quotes or without them. -/
def readName? (cs : List Char) : Option (String × List Char) :=
  match cs with
  | '"' :: cs => readString? '"' [] (cs.length + 1) cs
  | '\'' :: cs => readString? '\'' [] (cs.length + 1) cs
  | '\\' :: _ => readNameFrom? [] (cs.length + 1) cs
  | c :: _ => if isNameStart c then readNameFrom? [] (cs.length + 1) cs else none
  | [] => none

end HealthWatch.Json5
