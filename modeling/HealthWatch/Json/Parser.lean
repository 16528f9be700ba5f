import HealthWatch.Json.Number
import HealthWatch.Numeral.Base

/-!
# Reading JSON

`Json.parse` reads one value and refuses anything but white space around it. The recursion runs on
a fuel that every step decreases and that starts at the length of the text, so it never runs out.
-/

namespace HealthWatch.Json

open Numeral

def skipSpace (cs : List Char) : List Char :=
  cs.dropWhile fun c => c = ' ' || c = '\n' || c = '\t' || c = '\r'

def escaped? : Char → Option Char
  | '"' => some '"'
  | '\\' => some '\\'
  | '/' => some '/'
  | 'b' => some '\x08'
  | 'f' => some '\x0c'
  | 'n' => some '\n'
  | 'r' => some '\r'
  | 't' => some '\t'
  | _ => none

/-- Reads a string after its opening quote. `acc` holds the characters read, the last one first, or
nothing once an unpaired half has been seen; `high` is a first half that waits for its second. -/
def readString? (acc : Option (List Char)) (high : Option Nat) :
    Nat → List Char → Option (Option String × List Char)
  | 0, _ => none
  | fuel + 1, cs =>
    let settled := if high.isSome then none else acc
    match cs with
    | [] => none
    | '"' :: cs => some (settled.map fun r => String.ofList r.reverse, cs)
    | '\\' :: 'u' :: cs => do
      let (n, cs) ← readHex? 4 cs
      match high with
      | some h =>
        if isLowHalf n then
          readString? (acc.map (joinHalves h n :: ·)) none fuel cs
        else readString? none none fuel cs
      | none =>
        if isHighHalf n then readString? acc (some n) fuel cs
        else if isLowHalf n then readString? none none fuel cs
        else readString? (acc.map (Char.ofNat n :: ·)) none fuel cs
    | '\\' :: e :: cs => do
      let c ← escaped? e
      readString? (settled.map (c :: ·)) none fuel cs
    | c :: cs =>
      if c = '\\' || c.toNat < 0x20 then none
      else readString? (settled.map (c :: ·)) none fuel cs

def dropWord? : List Char → List Char → Option (List Char)
  | [], cs => some cs
  | w :: ws, c :: cs => if w = c then dropWord? ws cs else none
  | _ :: _, [] => none

/-- An object with its members, unless a name is unreadable. -/
def ofMembers (members : List (Option String × Json)) : Json :=
  match members.mapM fun m => m.1.map fun name => (name, m.2) with
  | some members => .object members
  | none => .unreadable

mutual

def readValue? : Nat → List Char → Option (Json × List Char)
  | 0, _ => none
  | fuel + 1, cs =>
    match skipSpace cs with
    | 'n' :: cs => (dropWord? ['u', 'l', 'l'] cs).map fun cs => (.null, cs)
    | 't' :: cs => (dropWord? ['r', 'u', 'e'] cs).map fun cs => (.bool true, cs)
    | 'f' :: cs => (dropWord? ['a', 'l', 's', 'e'] cs).map fun cs => (.bool false, cs)
    | '"' :: cs => do
      let (s, cs) ← readString? (some []) none (cs.length + 1) cs
      return (s.elim .unreadable .string, cs)
    | '[' :: cs =>
      match skipSpace cs with
      | ']' :: cs => some (.array [], cs)
      | cs => do
        let (items, cs) ← readItems? fuel [] cs
        return (.array items, cs)
    | '\x7b' :: cs =>
      match skipSpace cs with
      | '\x7d' :: cs => some (.object [], cs)
      | cs => do
        let (members, cs) ← readMembers? fuel [] cs
        return (ofMembers members, cs)
    | cs => readNumber? cs

/-- Reads items up to the closing bracket; `acc` holds those read, the last one first. -/
def readItems? : Nat → List Json → List Char → Option (List Json × List Char)
  | 0, _, _ => none
  | fuel + 1, acc, cs => do
    let (j, cs) ← readValue? fuel cs
    match skipSpace cs with
    | ',' :: cs => readItems? fuel (j :: acc) cs
    | ']' :: cs => return ((j :: acc).reverse, cs)
    | _ => none

def readMembers? : Nat → List (Option String × Json) → List Char →
    Option (List (Option String × Json) × List Char)
  | 0, _, _ => none
  | fuel + 1, acc, cs =>
    match skipSpace cs with
    | '"' :: cs => do
      let (name, cs) ← readString? (some []) none (cs.length + 1) cs
      match skipSpace cs with
      | ':' :: cs =>
        let (j, cs) ← readValue? fuel cs
        match skipSpace cs with
        | ',' :: cs => readMembers? fuel ((name, j) :: acc) cs
        | '\x7d' :: cs => return (((name, j) :: acc).reverse, cs)
        | _ => none
      | _ => none
    | _ => none

end

def parse (s : String) : Option Json :=
  let cs := s.toList
  match readValue? (2 * cs.length + 2) cs with
  | some (j, rest) => if (skipSpace rest).isEmpty then some j else none
  | none => none

end HealthWatch.Json
