/-!
# White space

`isBlank` is the Unicode property White_Space, and `trim` removes blank characters from both
ends of a text. `trimChars_eq_nil_iff` says when nothing is left.
-/

namespace HealthWatch.Text

/-- The Unicode property White_Space: 25 characters. The zero width space is not among them. -/
def isBlank (c : Char) : Bool :=
  let n := c.toNat
  (0x09 ≤ n && n ≤ 0x0D) || n == 0x20 || n == 0x85 || n == 0xA0 || n == 0x1680 ||
    (0x2000 ≤ n && n ≤ 0x200A) || n == 0x2028 || n == 0x2029 || n == 0x202F || n == 0x205F ||
    n == 0x3000

def trimChars (cs : List Char) : List Char :=
  ((cs.dropWhile isBlank).reverse.dropWhile isBlank).reverse

def trim (s : String) : String :=
  String.ofList (trimChars s.toList)

/-- Every character of `s` is blank; the empty text is blank too. -/
def blank (s : String) : Bool :=
  s.toList.all isBlank

theorem dropWhile_eq_nil_iff (p : Char → Bool) (cs : List Char) :
    cs.dropWhile p = [] ↔ cs.all p = true := by
  induction cs with
  | nil => simp
  | cons c cs ih => by_cases h : p c <;> simp_all

/-- Trimming leaves nothing of a blank text, and of no other. -/
theorem trimChars_eq_nil_iff (cs : List Char) : trimChars cs = [] ↔ cs.all isBlank = true := by
  rw [trimChars, List.reverse_eq_nil_iff, dropWhile_eq_nil_iff, List.all_reverse,
    ← dropWhile_eq_nil_iff isBlank cs]
  constructor
  · intro h
    cases hd : cs.dropWhile isBlank with
    | nil => rfl
    | cons c r =>
      have hc := List.head?_dropWhile_not isBlank cs
      simp_all
  · intro h
    simp [h]

end HealthWatch.Text
