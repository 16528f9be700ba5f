import HealthWatch.Json.Basic
import HealthWatch.Numeral.Binary64.Shortest

/-!
# Writing JSON

`Json.render` writes a value on one line.
-/

namespace HealthWatch.Json

open Numeral

def renderChar (c : Char) : List Char :=
  if c = '"' then ['\\', '"']
  else if c = '\\' then ['\\', '\\']
  else if c.toNat < 0x20 then
    ['\\', 'u', '0', '0', digitChar (c.toNat / 16), Nat.digitChar (c.toNat % 16)]
  else [c]

def renderString (s : String) : String :=
  String.ofList ('"' :: s.toList.flatMap renderChar ++ ['"'])

mutual

def render : Json → String
  | .null => "null"
  | .bool b => if b then "true" else "false"
  | .integer i => decimal i
  | .real x => x.render
  | .string s => renderString s
  | .array items => "[" ++ renderItems items ++ "]"
  | .object members => "\x7b" ++ renderMembers members ++ "\x7d"
  | .unreadable => "null"

def renderItems : List Json → String
  | [] => ""
  | [j] => render j
  | j :: js => render j ++ "," ++ renderItems js

def renderMembers : List (String × Json) → String
  | [] => ""
  | [(name, j)] => renderString name ++ ":" ++ render j
  | (name, j) :: ms => renderString name ++ ":" ++ render j ++ "," ++ renderMembers ms

end

end HealthWatch.Json
