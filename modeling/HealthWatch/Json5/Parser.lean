import HealthWatch.Json.Parser
import HealthWatch.Json5.Text
import HealthWatch.Keyed
import HealthWatch.Settings.Node

/-!
# Reading JSON5

`Json5.parse` reads one value with white space and comments around it. An integer has 64 bits with
a sign if it is decimal, and 32 without if it is hexadecimal; a floating point number is finite
unless it is written `Infinity` or `NaN`.
-/

namespace HealthWatch.Json5

open Numeral
open Settings (Node)

/-! ### Numbers -/

def readExponent (cs : List Char) : List Char × List Char :=
  match cs with
  | e :: rest =>
    if e = 'e' || e = 'E' then
      let (sign, rest) :=
        match rest with
        | '+' :: rest => (['+'], rest)
        | '-' :: rest => (['-'], rest)
        | rest => ([], rest)
      match spanDigits rest with
      | ([], _) => ([], cs)
      | (ds, rest) => (e :: sign ++ ds, rest)
    else ([], cs)
  | [] => ([], [])

def readLeading (cs : List Char) : List Char × List Char :=
  match cs with
  | '0' :: rest => (['0'], rest)
  | cs => spanDigits cs

def readDecimal? (sign : List Char) (cs : List Char) : Option (Node × List Char) :=
  let (leading, rest) := readLeading cs
  let (fraction, rest) :=
    match rest with
    | '.' :: rest =>
      let (ds, rest) := spanDigits rest
      ('.' :: ds, rest)
    | rest => ([], rest)
  let (exponent, rest) := readExponent rest
  if leading.isEmpty && fraction.length < 2 then none
  else if fraction.isEmpty && exponent.isEmpty then
    match Width.i64.readChars (sign ++ leading) with
    | .ok i => some (.whole i.val, rest)
    | .error _ => none
  else
    match Binary64.readChars (sign ++ leading ++ fraction ++ exponent) with
    | .ok (.infinite _) => none
    | .ok x => some (.real x, rest)
    | .error _ => none

def readHexadecimal? (cs : List Char) : Option (Node × List Char) :=
  match cs.span fun c => (hexValue? c).isSome with
  | ([], _) => none
  | (ds, rest) => do
    let n ← ofBase? 16 ds
    if n < UInt32.size then return (.whole n, rest) else none

/-- Reads a number. A plus sign stands before decimal numbers only, a minus sign before all but
hexadecimal ones. -/
def readNumber? (cs : List Char) : Option (Node × List Char) :=
  match cs with
  | '0' :: 'x' :: cs | '0' :: 'X' :: cs => readHexadecimal? cs
  | '+' :: cs => readDecimal? ['+'] cs
  | '-' :: 'I' :: cs =>
    (Json.dropWord? "nfinity".toList cs).map fun cs => (.real (.infinite true), cs)
  | '-' :: 'N' :: cs => (Json.dropWord? "aN".toList cs).map fun cs => (.real .nan, cs)
  | '-' :: cs => readDecimal? ['-'] cs
  | 'I' :: cs => (Json.dropWord? "nfinity".toList cs).map fun cs => (.real (.infinite false), cs)
  | 'N' :: cs => (Json.dropWord? "aN".toList cs).map fun cs => (.real .nan, cs)
  | cs => readDecimal? [] cs

/-! ### Values -/

mutual

def readValue? : Nat → List Char → Option (Node × List Char)
  | 0, _ => none
  | fuel + 1, cs =>
    match cs with
    | 'n' :: cs => (Json.dropWord? "ull".toList cs).map fun cs => (.nothing, cs)
    | 't' :: cs => (Json.dropWord? "rue".toList cs).map fun cs => (.flag true, cs)
    | 'f' :: cs => (Json.dropWord? "alse".toList cs).map fun cs => (.flag false, cs)
    | '"' :: cs => (readString? '"' [] (cs.length + 1) cs).map fun r => (.text r.1, r.2)
    | '\'' :: cs => (readString? '\'' [] (cs.length + 1) cs).map fun r => (.text r.1, r.2)
    | '[' :: cs =>
      match skip cs with
      | ']' :: cs => some (.list [], cs)
      | cs => (readItems? fuel [] cs).map fun r => (.list r.1, r.2)
    | '\x7b' :: cs =>
      match skip cs with
      | '\x7d' :: cs => some (.table [], cs)
      | cs => (readMembers? fuel [] cs).map fun r => (.table r.1, r.2)
    | cs => readNumber? cs

/-- Reads items up to the closing bracket, before which there may be a comma. -/
def readItems? : Nat → List Node → List Char → Option (List Node × List Char)
  | 0, _, _ => none
  | fuel + 1, acc, cs => do
    let (n, cs) ← readValue? fuel cs
    match skip cs with
    | ']' :: cs => return ((n :: acc).reverse, cs)
    | ',' :: cs =>
      match skip cs with
      | ']' :: cs => return ((n :: acc).reverse, cs)
      | cs => readItems? fuel (n :: acc) cs
    | _ => none

/-- Reads members up to the closing brace, before which there may be a comma. Of a repeated name the
last member stays. -/
def readMembers? : Nat → List (String × Node) → List Char →
    Option (List (String × Node) × List Char)
  | 0, _, _ => none
  | fuel + 1, members, cs => do
    let (name, cs) ← readName? cs
    match skip cs with
    | ':' :: cs =>
      let (n, cs) ← readValue? fuel (skip cs)
      let members := Keyed.put name n members
      match skip cs with
      | '\x7d' :: cs => return (members, cs)
      | ',' :: cs =>
        match skip cs with
        | '\x7d' :: cs => return (members, cs)
        | cs => readMembers? fuel members cs
      | _ => none
    | _ => none

end

def parse (text : String) : Option Node :=
  let cs := skip text.toList
  match readValue? (2 * cs.length + 2) cs with
  | some (n, rest) => if (skip rest).isEmpty then some n else none
  | none => none

end HealthWatch.Json5
