import HealthWatch.Text.Plain

/-!
# Quoted texts

`quoted s` writes `s` between double quotes. A quote or backslash inside is escaped, tab, line feed,
carriage return and null have short forms, and a character that does not stand for itself is
written `\u` and its number in braces.
-/

namespace HealthWatch.Text

/-- The digits of `n` in base 16, lower case, without leading zeros. -/
def hexDigits (n : Nat) : List Char :=
  Nat.toDigits 16 n

def quotedChar (c : Char) : List Char :=
  match c with
  | '"' => ['\\', '"']
  | '\\' => ['\\', '\\']
  | '\t' => ['\\', 't']
  | '\n' => ['\\', 'n']
  | '\r' => ['\\', 'r']
  | _ =>
    if c.toNat = 0 then ['\\', '0']
    else if isPlain c then [c]
    else ['\\', 'u', '\x7b'] ++ hexDigits c.toNat ++ ['\x7d']

/-- `s` between double quotes, with escapes. -/
def quoted (s : String) : String :=
  String.ofList ('"' :: s.toList.flatMap quotedChar ++ ['"'])

end HealthWatch.Text
