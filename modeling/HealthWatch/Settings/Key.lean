import HealthWatch.Numeral.Integer

/-!
# Keys of layers

A key leads from the table of a layer to the place of a value: through tables by name, and through
lists by position. `Key.ofText` reads the written form, such as `skips.disk` or `checks[0]`. What
is not a written form is a name as a whole.
-/

namespace HealthWatch.Settings

open Numeral

inductive Key.Step where
  /-- To the entry of a table. -/
  | entry (name : String)
  /-- To the item of a list; a negative position counts from the end. -/
  | item (position : Int)
  deriving DecidableEq, Repr

/-- The way to a value: the name in the table of the layer, and the steps from there. -/
structure Key where
  head : String
  steps : List Key.Step
  deriving DecidableEq, Repr

namespace Key

def isNameChar (c : Char) : Bool :=
  c.isAlphanum || c = ' ' || c = '_' || c = '-'

/-- Reads a name, which is not empty. -/
def readName? (cs : List Char) : Option (String × List Char) :=
  match cs.span isNameChar with
  | ([], _) => none
  | (name, cs) => some (String.ofList name, cs)

/-- A position written in decimal, blanks around it. -/
def position? (cs : List Char) : Option Int :=
  let blank := fun c : Char => decide (c = ' ' ∨ c = '\t')
  let cs := ((cs.dropWhile blank).reverse.dropWhile blank).reverse
  match cs with
  | '+' :: _ => none
  | _ =>
    match Width.i64.readChars cs with
    | .ok i => some i.val
    | .error _ => none

def readSteps? : Nat → List Char → Option (List Step)
  | _, [] => some []
  | fuel + 1, '.' :: cs => do
    let (name, cs) ← readName? cs
    return .entry name :: (← readSteps? fuel cs)
  | fuel + 1, '[' :: cs =>
    match cs.span (· ≠ ']') with
    | (inside, ']' :: cs) => do return .item (← position? inside) :: (← readSteps? fuel cs)
    | _ => none
  | _, _ => none

def read? (text : String) : Option Key := do
  let (head, cs) ← readName? text.toList
  return ⟨head, ← readSteps? cs.length cs⟩

/-- The key that a text stands for: the one it is the written form of, if any, or the one with the
text as its only name. -/
def ofText (text : String) : Key :=
  (read? text).getD ⟨text, []⟩

end Key

end HealthWatch.Settings
