import HealthWatch.Scale.Basic
import HealthWatch.Text.Blank
import HealthWatch.Text.Pieces

/-!
# Reading scales

A scale with a warning and a critical boundary is written `warning,critical`, one with a critical
boundary alone by that value, and the empty scale by a blank text. White space around a value is
ignored. A value that cannot be read is reported before a wrong number of values.
-/

namespace HealthWatch.Scale

open Threshold (Kind)

inductive ParseFault (ε : Type) where
  /-- The first value that could not be read, the whole text, and why. -/
  | badToken (token text : String) (problem : ε)
  /-- Too many values, all of which could be read. -/
  | tooMany (count : Nat) (text : String)
  /-- A fault told in the words of the caller. -/
  | other (text : String)
  deriving DecidableEq, Repr

def ParseFault.message {ε : Type} (explain : ε → String) : ParseFault ε → String
  | .badToken token text problem => s!"'{token}' in '{text}': {explain problem}"
  | .tooMany count text =>
    s!"expected at most two values, got {Numeral.natural count} in '{text}'"
  | .other text => text

/-- The values of a text, trimmed. -/
def tokens (text : String) : List String :=
  (Text.pieces ',' text.toList).map fun cs => String.ofList (Text.trimChars cs)

variable {α ε : Type}

/-- Reads tokens up to the first that cannot be read. -/
def readTokens (read : String → Except ε α) (text : String) :
    List String → Except (ParseFault ε) (List α)
  | [] => .ok []
  | token :: rest =>
    match read token with
    | .error problem => .error (.badToken token text problem)
    | .ok value =>
      match readTokens read text rest with
      | .error fault => .error fault
      | .ok values => .ok (value :: values)

/-- Reads a scale, with `read` for its values. -/
def parse [Quantity α] (read : String → Except ε α) (text : String) :
    Except (ParseFault ε) (Scale α) :=
  if Text.blank text then .ok empty
  else
    match readTokens read text (tokens text) with
    | .error fault => .error fault
    | .ok [critical] => .ok (Bounds.none.set .critical critical).scale
    | .ok [warning, critical] =>
      .ok ((Bounds.none.set .warning warning).set .critical critical).scale
    | .ok values => .error (.tooMany values.length text)

end HealthWatch.Scale
