import HealthWatch.Numeral.Integer
import HealthWatch.Yaml.Cursor

/-!
# Texts by lines

A text that is written on the lines after a mark, either as it stands or folded. The heading behind
the mark may give its indentation and tell what becomes of the line ends after its last line.
-/

namespace HealthWatch.Yaml

open Numeral

/-! ### Headings -/

/-- What becomes of the line ends after the last line: all of them go, one stays, or all stay. -/
inductive Ending where
  | strip
  | clip
  | keep
  deriving DecidableEq

structure Heading where
  ending? : Option Ending := none
  indent? : Option Nat := none

def Heading.read (h : Heading) : List Char → Heading × List Char
  | [] => (h, [])
  | c :: cs =>
    if c = '+' && h.ending?.isNone then read { h with ending? := some .keep } cs
    else if c = '-' && h.ending?.isNone then read { h with ending? := some .strip } cs
    else
      match digitValue? c, h.indent? with
      | some d, none => read { h with indent? := some d } cs
      | _, _ => (h, c :: cs)

/-! ### Lines -/

def skipIndentFrom (width count : Nat) (c : Cursor) : List Char → Nat × Cursor
  | [] => (count, { c with rest := [] })
  | x :: cs =>
    if x = '\n' then skipIndentFrom width (count + 1) c.breakLine cs
    else if x = ' ' && c.column < width then skipIndentFrom width count c.pass cs
    else (count, { c with rest := x :: cs })

/-- Removes empty lines, which are counted, and at most `width` spaces in front of a line. -/
def skipIndent (width : Nat) (c : Cursor) : Nat × Cursor :=
  skipIndentFrom width 0 c c.rest

/-- The greatest number of spaces on an empty line or in front of the first line with more. -/
def widest (column best : Nat) : List Char → Nat
  | ' ' :: cs => widest (column + 1) best cs
  | '\n' :: cs => widest 0 (max column best) cs
  | _ => max column best

/-- Takes the lines at the column `width`, each with the number of line ends between it and the line
before it. The number in the result is that of the line ends after the last line. -/
def takeLines (width : Nat) (acc : List (Nat × List Char)) (gap : Nat) :
    Nat → Cursor → List (Nat × List Char) × Nat × Cursor
  | 0, c => (acc.reverse, gap, c)
  | fuel + 1, c =>
    if c.column = width && !c.rest.isEmpty then
      let (l, rest) := c.rest.span (· ≠ '\n')
      let acc := (gap, l) :: acc
      match rest with
      | [] => (acc.reverse, 0, c.advance l.length)
      | _ :: cs =>
        let (count, next) := skipIndent width { c.breakLine with rest := cs }
        takeLines width acc (count + 1) fuel next
    else (acc.reverse, gap, c)

/-- A line is kept apart from its neighbours, even in a folded text. -/
def standsOut (l : List Char) : Bool :=
  l.head?.any isBlank

/-- The text of lines after the line `before?`. -/
def joinLines (folded : Bool) (before? : Option (List Char)) : List (Nat × List Char) → List Char
  | [] => []
  | (gap, l) :: ls =>
    let folds := folded && before?.any (fun b => !standsOut b) && !standsOut l
    (if folds then fold gap else List.replicate gap '\n') ++ l ++ joinLines folded (some l) ls

/-- The end of a text without lines after so many empty ones, at the end of the document. -/
def emptyEnd (ending : Ending) (count : Nat) : List Char :=
  match ending with
  | .strip => []
  | .clip => ['\n']
  | .keep => List.replicate (max count 1) '\n'

/-- The end of a text after `count` line ends. One is added if the document is `cut` off on a line
of the text. -/
def lineEnd (ending : Ending) (count : Nat) (cut : Bool) : List Char :=
  let added := if cut then 1 else 0
  match ending with
  | .strip => []
  | .clip => List.replicate (min count 1 + added) '\n'
  | .keep => List.replicate (count + added) '\n'

/-- Reads the lines of a text. Without a width in the heading, the first lines give it. -/
def readBody? (folded : Bool) (bound : Nat) (h : Heading) (c : Cursor) :
    Option (List Char × Cursor) :=
  let ending := h.ending?.getD .clip
  let width := (h.indent?.map (bound - 1 + ·)).getD (max bound (widest 0 0 c.rest))
  let spaces := if h.indent?.isSome then width else c.rest.length
  let (count, start) := skipIndent spaces c
  if c.rest.head? = some '\t' then none
  else if start.rest.isEmpty then some (emptyEnd ending count, start)
  else if start.column < width && bound ≤ start.column then none
  else
    let (lines, gap, next) := takeLines width [] count (start.rest.length + 1) start
    let text := joinLines folded none lines
    if lines.isEmpty then
      some (if ending = .keep then List.replicate count '\n' else [], next)
    else
      let cut := next.rest.isEmpty && max width 1 ≤ next.column
      some (text ++ lineEnd ending gap cut, next)

def readLines? (folded : Bool) (bound : Nat) (c : Cursor) : Option (String × Cursor) := do
  let (h, rest) := Heading.read {} c.rest.tail
  if h.indent? = some 0 || rest.head? = some '#' || !lineDone rest then none
  else
    match rest.dropWhile (· ≠ '\n') with
    | [] => return ("", { c with rest := [] })
    | _ :: cs =>
      let (text, c) ← readBody? folded bound h { c.breakLine with rest := cs }
      return (String.ofList text, c)

end HealthWatch.Yaml
