import HealthWatch.Numeral.Binary64

/-!
# JSON values

`Json` keeps the members of an object in the order of the text, repeated names included, and tells
integers from other numbers. What is well-formed but denotes no value, a number beyond every format
or an unpaired half of a character, is `unreadable`: a reader that ignores it is not disturbed.
-/

namespace HealthWatch

open Numeral (Binary64)

inductive Json where
  | null
  | bool (b : Bool)
  | integer (i : Int)
  | real (x : Binary64)
  | string (s : String)
  | array (items : List Json)
  | object (members : List (String × Json))
  | unreadable

namespace Json

def members : Json → List (String × Json)
  | .object members => members
  | _ => []

/-- The value of a member; the last one if the name is repeated. -/
def member? (members : List (String × Json)) (name : String) : Option Json :=
  (members.reverse.find? (·.1 == name)).map (·.2)

def get? (j : Json) (name : String) : Option Json :=
  match j with
  | .object members => member? members name
  | _ => none

mutual

def depth : Json → Nat
  | .array items => itemsDepth items + 1
  | .object members => membersDepth members + 1
  | _ => 0

def itemsDepth : List Json → Nat
  | [] => 0
  | j :: js => max (depth j) (itemsDepth js)

def membersDepth : List (String × Json) → Nat
  | [] => 0
  | (_, j) :: ms => max (depth j) (membersDepth ms)

end

mutual

/-- No part of the value is unreadable. -/
def readable : Json → Bool
  | .unreadable => false
  | .array items => itemsReadable items
  | .object members => membersReadable members
  | _ => true

def itemsReadable : List Json → Bool
  | [] => true
  | j :: js => readable j && itemsReadable js

def membersReadable : List (String × Json) → Bool
  | [] => true
  | (_, j) :: ms => readable j && membersReadable ms

end

def toNat? (bound : Nat) : Json → Option Nat
  | .integer i => if 0 ≤ i ∧ i < bound then some i.toNat else none
  | _ => none

def toString? : Json → Option String
  | .string s => some s
  | _ => none

/-- The name of a value without parts: a text, or an object with the name as its only member and no
value. -/
def toName? : Json → Option String
  | .string s => some s
  | .object [(s, .null)] => some s
  | _ => none

def toList? {α : Type} (f : Json → Option α) : Json → Option (List α)
  | .array items => items.mapM f
  | _ => none

end Json

end HealthWatch
