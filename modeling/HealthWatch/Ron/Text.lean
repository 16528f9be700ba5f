import HealthWatch.Numeral.Base

/-!
# Texts of RON

Space and comments, words, and texts between quotes.
-/

namespace HealthWatch.Ron

open Numeral

/-! ### Space -/

def isSpace (c : Char) : Bool :=
  c = ' ' || c = '\t' || c = '\n' || c = '\r'

/-- What follows the end of a comment of several lines inside so many others. -/
def afterComment? : Nat → List Char → Option (List Char)
  | _, [] => none
  | depth, '/' :: '*' :: cs => afterComment? (depth + 1) cs
  | 0, '*' :: '/' :: cs => some cs
  | depth + 1, '*' :: '/' :: cs => afterComment? depth cs
  | depth, _ :: cs => afterComment? depth cs

/-- Removes white space and comments, at most so many. A slash that begins no comment is refused. -/
def skipSpaces? : Nat → List Char → Option (List Char)
  | 0, cs => some cs
  | count + 1, cs =>
    match cs.dropWhile isSpace with
    | '/' :: '/' :: cs => skipSpaces? count (cs.dropWhile (· ≠ '\n'))
    | '/' :: '*' :: cs => do skipSpaces? count (← afterComment? 0 cs)
    | '/' :: _ => none
    | cs => some cs

def skip? (cs : List Char) : Option (List Char) :=
  skipSpaces? (cs.length + 1) cs

/-! ### Words -/

def isWordStart (c : Char) : Bool :=
  c.isAlpha || c = '_'

def isWordPart (c : Char) : Bool :=
  c.isAlphanum || c = '_'

def isRawPart (c : Char) : Bool :=
  isWordPart c || c = '.' || c = '+' || c = '-'

def dropWord? (word : String) (cs : List Char) : Option (List Char) :=
  let (read, rest) := cs.span isWordPart
  if read = word.toList then some rest else none

/-- Reads a word. One that would be longer as a raw word has to be marked as one. -/
def readWord? (cs : List Char) : Option (String × List Char) :=
  match cs with
  | 'r' :: '"' :: _ => none
  | 'r' :: '#' :: cs =>
    match cs.span isRawPart with
    | ([], _) => none
    | (word, rest) => some (String.ofList word, rest)
  | c :: _ =>
    let (word, rest) := cs.span isWordPart
    let longer := c ≠ 'r' && rest.head?.any isRawPart
    if isWordStart c && !longer then some (String.ofList word, rest) else none
  | [] => none

/-! ### Texts between quotes -/

def readEscape? : List Char → Option (Char × List Char)
  | '\'' :: cs => some ('\'', cs)
  | '"' :: cs => some ('"', cs)
  | '\\' :: cs => some ('\\', cs)
  | 'n' :: cs => some ('\n', cs)
  | 'r' :: cs => some ('\r', cs)
  | 't' :: cs => some ('\t', cs)
  | '0' :: cs => some ('\x00', cs)
  | 'x' :: cs => readCode? 2 cs
  | 'u' :: '\x7b' :: cs => do
    let (ds, rest) := cs.span fun c => (hexValue? c).isSome
    match rest with
    | '\x7d' :: rest =>
      if ds.isEmpty || 6 < ds.length then none
      else return (← charOf? (← ofBase? 16 ds), rest)
    | _ => none
  | _ => none

/-- Reads a string after its opening quote; `acc` holds what was read, the last one first. -/
def readString? (acc : List Char) : Nat → List Char → Option (String × List Char)
  | 0, _ => none
  | fuel + 1, cs =>
    match cs with
    | '"' :: cs => some (String.ofList acc.reverse, cs)
    | '\\' :: cs => do
      let (c, cs) ← readEscape? cs
      readString? (c :: acc) fuel cs
    | c :: cs => readString? (c :: acc) fuel cs
    | [] => none

/-- Reads up to the text `close`, which is removed. -/
def readUpTo? (close acc : List Char) : List Char → Option (String × List Char)
  | [] => none
  | c :: cs =>
    if close.isPrefixOf (c :: cs) then
      some (String.ofList acc.reverse, (c :: cs).drop close.length)
    else readUpTo? close (c :: acc) cs

/-- Reads a raw string after its mark: as many number signs end it as begin it. -/
def readRaw? (cs : List Char) : Option (String × List Char) :=
  let (marks, rest) := cs.span (· = '#')
  match rest with
  | '"' :: rest => readUpTo? ('"' :: marks) [] rest
  | _ => none

def readChar? (cs : List Char) : Option (Char × List Char) := do
  let (c, cs) ←
    match cs with
    | '\\' :: cs => readEscape? cs
    | '\'' :: _ => none
    | c :: cs => some (c, cs)
    | [] => none
  match cs with
  | '\'' :: cs => return (c, cs)
  | _ => none

def readText? (cs : List Char) : Option (String × List Char) :=
  match cs with
  | '"' :: cs => readString? [] (cs.length + 1) cs
  | '\'' :: cs => (readChar? cs).map fun r => (r.1.toString, r.2)
  | 'r' :: cs => readRaw? cs
  | _ => none

end HealthWatch.Ron
