import HealthWatch.Json.Parser
import HealthWatch.Json.Printer
import HealthWatch.Proofs.Numeral.Digits
import Mathlib.Algebra.Group.Int.Defs
import Mathlib.Algebra.Group.Nat.Defs

/-!
# Reading what was written

`parse_render` says that a value is read back from its text, if it holds no floating point number
and its integers fit 64 bits. Each part is read off the head of a longer text, so the lemmas speak
of what stands behind it: a numeral needs something that ends it.
-/

namespace HealthWatch.Json

open Numeral

/-! ### Strings -/

theorem readHex?_code {c : Char} (control : c.toNat < 0x20) (rest : List Char) :
    readHex? 4 ('0' :: '0' :: digitChar (c.toNat / 16) :: Nat.digitChar (c.toNat % 16) :: rest) =
      some (c.toNat, rest) := by
  have code : ∀ n < 0x20,
      ofBase? 16 ['0', '0', digitChar (n / 16), Nat.digitChar (n % 16)] = some n := by
    decide
  simp [readHex?, code c.toNat control]

theorem readString?_char (c : Char) (acc : List Char) (fuel : Nat) (rest : List Char) :
    readString? (some acc) none (fuel + 1) (renderChar c ++ rest) =
      readString? (some (c :: acc)) none fuel rest := by
  rw [renderChar]
  split
  · rename_i quote
    subst quote
    simp [readString?, escaped?]
  · split
    · rename_i backslash
      subst backslash
      simp [readString?, escaped?]
    · split
      · rename_i control
        have halves : isHighHalf c.toNat = false ∧ isLowHalf c.toNat = false := by
          simp only [isHighHalf, isLowHalf, Bool.and_eq_false_iff, decide_eq_false_iff_not]
          omega
        simp [readString?, readHex?_code control, halves]
      · rename_i quote backslash control
        rw [List.singleton_append, readString?, if_neg (by simp [backslash, control])]
        · rfl
        · exact quote
        · exact fun _ same => absurd same backslash
        · exact fun _ _ same => absurd same backslash

theorem readString?_render (cs acc : List Char) {fuel : Nat} (enough : cs.length < fuel)
    (rest : List Char) :
    readString? (some acc) none fuel (cs.flatMap renderChar ++ '"' :: rest) =
      some (some (String.ofList (acc.reverse ++ cs)), rest) := by
  induction cs generalizing acc fuel with
  | nil =>
    obtain ⟨fuel, rfl⟩ := Nat.exists_eq_add_of_lt enough
    simp [readString?]
  | cons c cs ih =>
    obtain ⟨fuel, rfl⟩ := Nat.exists_eq_add_of_lt enough
    rw [List.flatMap_cons, List.append_assoc, readString?_char, ih _ (by simp; omega)]
    simp

/-! ### Integers -/

/-- What stands behind a value inside another one: nothing, or what ends the value. -/
def Ends (rest : List Char) : Prop :=
  ∀ c ∈ rest.head?, c = ',' ∨ c = ']' ∨ c = '\x7d'

variable {rest : List Char}

theorem absorb_append {s m : Nat} {xs : List Char} (taken : absorb s xs = (m, []))
    (ys : List Char) : absorb s (xs ++ ys) = absorb m ys := by
  induction xs generalizing s with
  | nil =>
    obtain ⟨rfl, -⟩ := Prod.mk.inj taken
    rfl
  | cons x xs ih =>
    simp only [List.cons_append, absorb] at taken ⊢
    split at taken
    · rename_i fits
      rw [if_pos fits, ih taken]
    · cases taken

theorem absorb_digits {n : Nat} (fits : n < UInt64.size) : absorb 0 (digits n) = (n, []) := by
  induction n using digits.induct with
  | case1 n small =>
    rw [digits, if_pos small]
    simp [absorb, digitValue?_digitChar small, fits]
  | case2 n large ih =>
    have last : 10 * (n / 10) + n % 10 = n := Nat.div_add_mod n 10
    rw [digits, if_neg large, absorb_append (ih (by omega))]
    simp [absorb, digitValue?_digitChar (Nat.mod_lt n (by decide : 0 < 10)), last, fits]

theorem readTail?_ends (ends : Ends rest) (negative : Bool) (whole : List Char) :
    readTail? negative whole rest =
      some (NumeralParts.value ⟨negative, whole, none, none⟩, rest) := by
  cases rest with
  | nil => simp [readTail?]
  | cons c rest =>
    rcases ends c rfl with rfl | rfl | rfl
    all_goals simp [readTail?]

theorem readNumber?_minus (cs : List Char) :
    readNumber? ('-' :: cs) = readMagnitude? true cs := rfl

theorem readNumber?_plain {cs : List Char} (plain : cs.head? ≠ some '-') :
    readNumber? cs = readMagnitude? false cs := by
  unfold readNumber?
  split
  · exact absurd rfl plain
  · rfl

theorem readMagnitude?_digits (ends : Ends rest) (negative : Bool) (n : Nat) :
    readMagnitude? negative (digits n ++ rest) =
      some (NumeralParts.value ⟨negative, digits n, none, none⟩, rest) := by
  have stops : ∀ c ∈ rest.head?, digitValue? c = none := by
    intro c first
    rcases ends c first with rfl | rfl | rfl <;> decide
  rw [readMagnitude?, spanDigits_digits n stops]
  split
  · rename_i nothing
    exact absurd (Prod.mk.inj nothing).1 (digits_ne_nil n)
  · rename_i zero
    cases digits_eq_zero_cons (Prod.mk.inj zero).1
  · rename_i same
    obtain ⟨rfl, rfl⟩ := Prod.mk.inj same
    exact readTail?_ends ends negative _

theorem holds_i64 {i : Int} : Width.i64.Holds i ↔ -2 ^ 63 ≤ i ∧ i < 2 ^ 63 := by
  have least : Width.i64.least = -2 ^ 63 := by decide
  have greatest : Width.i64.greatest = 2 ^ 63 - 1 := by decide
  rw [Width.Holds, least, greatest]
  omega

theorem value_unsigned {whole : List Char} {n : Nat} (taken : absorb 0 whole = (n, [])) :
    NumeralParts.value ⟨false, whole, none, none⟩ = .integer n := by
  unfold NumeralParts.value
  simp only [taken, Bool.false_eq_true, if_false]

theorem value_negative {whole : List Char} {n : Nat} (taken : absorb 0 whole = (n, []))
    (nonzero : n ≠ 0) (holds : Width.i64.Holds (-n)) :
    NumeralParts.value ⟨true, whole, none, none⟩ = .integer (-n) := by
  have both : n ≠ 0 ∧ Width.i64.Holds (-(n : Int)) := ⟨nonzero, holds⟩
  unfold NumeralParts.value
  -- The floating point number must stay closed: it computes with powers of two.
  generalize NumeralParts.real? _ = real
  simp only [taken, if_true, if_pos both]

theorem readNumber?_decimal {i : Int} (low : -2 ^ 63 ≤ i) (high : i < 2 ^ 64) (ends : Ends rest) :
    readNumber? ((decimal i).toList ++ rest) = some (.integer i, rest) := by
  have fits : i.natAbs < UInt64.size := by
    rw [UInt64.size]
    omega
  have taken := absorb_digits fits
  rw [decimal, String.toList_ofList]
  by_cases negative : i < 0
  · have value : -(i.natAbs : Int) = i := by omega
    have holds : Width.i64.Holds (-(i.natAbs : Int)) := holds_i64.mpr (by omega)
    rw [if_pos negative, List.cons_append, readNumber?_minus, readMagnitude?_digits ends,
      value_negative taken (by omega) holds, value]
  · have value : (i.natAbs : Int) = i := by omega
    have plain : (digits i.natAbs ++ rest).head? ≠ some '-' := by
      cases front : digits i.natAbs with
      | nil => exact absurd front (digits_ne_nil _)
      | cons c ds =>
        intro minus
        have digit : (digitValue? c).isSome = true :=
          digitValue?_of_mem_digits (front ▸ List.mem_cons_self)
        obtain rfl : c = '-' := Option.some.inj minus
        cases digit
    rw [if_neg negative, readNumber?_plain plain, readMagnitude?_digits ends,
      value_unsigned taken, value]

/-! ### Values -/

mutual

/-- The text of the value tells it from all others: no part of it is a floating point number, and 64
bits hold its integers. -/
def isExact : Json → Bool
  | .null | .bool _ | .string _ => true
  | .integer i => -2 ^ 63 ≤ i && i < 2 ^ 64
  | .real _ | .unreadable => false
  | .array items => itemsExact items
  | .object members => membersExact members

def itemsExact : List Json → Bool
  | [] => true
  | j :: js => isExact j && itemsExact js

def membersExact : List (String × Json) → Bool
  | [] => true
  | (_, j) :: ms => isExact j && membersExact ms

end

theorem membersExact_iff {members : List (String × Json)} :
    membersExact members = true ↔ ∀ m ∈ members, m.2.isExact = true := by
  induction members with
  | nil => simp [membersExact]
  | cons m rest ih => simp [membersExact, ih]

def Opens (c : Char) : Prop :=
  c ≠ ' ' ∧ c ≠ '\n' ∧ c ≠ '\t' ∧ c ≠ '\r' ∧ c ≠ ']' ∧ c ≠ '\x7d'

instance (c : Char) : Decidable (Opens c) :=
  inferInstanceAs (Decidable (_ ∧ _ ∧ _ ∧ _ ∧ _ ∧ _))

theorem skipSpace_of_opens {c : Char} (opens : Opens c) (cs : List Char) :
    skipSpace (c :: cs) = c :: cs := by
  obtain ⟨h₁, h₂, h₃, h₄, -, -⟩ := opens
  simp [skipSpace, h₁, h₂, h₃, h₄]

/-- A numeral is a sign and digits. -/
theorem decimal_head (i : Int) : ∃ c cs, (decimal i).toList = c :: cs ∧
    (c = '-' ∨ (digitValue? c).isSome = true) := by
  rw [decimal, String.toList_ofList]
  split
  · exact ⟨_, _, rfl, .inl rfl⟩
  · cases front : digits i.natAbs with
    | nil => exact absurd front (digits_ne_nil _)
    | cons c ds =>
      exact ⟨c, ds, rfl, .inr (digitValue?_of_mem_digits (front ▸ List.mem_cons_self))⟩

theorem numeral_opens {c : Char} (numeral : c = '-' ∨ (digitValue? c).isSome = true) :
    Opens c ∧ c ≠ 'n' ∧ c ≠ 't' ∧ c ≠ 'f' ∧ c ≠ '"' ∧ c ≠ '[' ∧ c ≠ '\x7b' := by
  rcases numeral with rfl | digit
  · decide
  · have other : ∀ d : Char, digitValue? d = none → c ≠ d := by
      rintro d none rfl
      rw [none] at digit
      cases digit
    refine ⟨⟨?_, ?_, ?_, ?_, ?_, ?_⟩, ?_, ?_, ?_, ?_, ?_, ?_⟩
    all_goals exact other _ (by decide)

theorem render_head {j : Json} (exact : j.isExact = true) :
    ∃ c cs, (render j).toList = c :: cs ∧ Opens c := by
  cases j with
  | null => exact ⟨_, _, rfl, by decide⟩
  | bool b => cases b <;> exact ⟨_, _, rfl, by decide⟩
  | integer i =>
    obtain ⟨c, cs, head, numeral⟩ := decimal_head i
    exact ⟨c, cs, head, (numeral_opens numeral).1⟩
  | string s => exact ⟨_, _, by rw [render, renderString, String.toList_ofList]; rfl, by decide⟩
  | array items => exact ⟨'[', _, by simp [render]; rfl, by decide⟩
  | object members => exact ⟨'\x7b', _, by simp [render]; rfl, by decide⟩
  | real x => cases exact
  | unreadable => cases exact

theorem readValue?_number {c : Char} (numeral : c = '-' ∨ (digitValue? c).isSome = true)
    (fuel : Nat) (cs : List Char) : readValue? (fuel + 1) (c :: cs) = readNumber? (c :: cs) := by
  obtain ⟨opens, h₁, h₂, h₃, h₄, h₅, h₆⟩ := numeral_opens numeral
  rw [readValue?, skipSpace_of_opens opens]
  split <;> simp_all

theorem length_le_rendered (cs : List Char) : cs.length ≤ (cs.flatMap renderChar).length := by
  induction cs with
  | nil => exact Nat.le_refl _
  | cons c cs ih =>
    have one : 0 < (renderChar c).length := by
      rw [renderChar]
      repeat' split
      all_goals exact Nat.succ_pos _
    rw [List.flatMap_cons, List.length_append, List.length_cons]
    omega

theorem toList_renderString (s : String) :
    (renderString s).toList = '"' :: (s.toList.flatMap renderChar ++ ['"']) := by
  rw [renderString, String.toList_ofList, List.cons_append]

/-- The fuel for a string is the length of the text, which is enough. -/
theorem readString?_body (s : String) (rest : List Char) :
    readString? (some []) none ((s.toList.flatMap renderChar ++ '"' :: rest).length + 1)
      (s.toList.flatMap renderChar ++ '"' :: rest) = some (some s, rest) := by
  have enough : s.toList.length < (s.toList.flatMap renderChar ++ '"' :: rest).length + 1 := by
    have longer := length_le_rendered s.toList
    rw [List.length_append]
    omega
  rw [readString?_render s.toList [] enough, List.reverse_nil, List.nil_append,
    String.ofList_toList]

theorem ofMembers_named (members : List (String × Json)) :
    ofMembers (members.map fun m => (some m.1, m.2)) = .object members := by
  have named : (members.map fun m => (some m.1, m.2)).mapM
      (fun m : Option String × Json => m.1.map fun name => (name, m.2)) = some members := by
    induction members with
    | nil => rfl
    | cons m rest ih => simp [ih]
  rw [ofMembers, named]

theorem renderItems_cons (j : Json) (js : List Json) : (renderItems (j :: js)).toList =
    (render j).toList ++ if js.isEmpty then [] else ',' :: (renderItems js).toList := by
  cases js with
  | nil => simp [renderItems]
  | cons j' js => simp [renderItems]

theorem renderMembers_cons (name : String) (j : Json) (ms : List (String × Json)) :
    (renderMembers ((name, j) :: ms)).toList =
      '"' :: (name.toList.flatMap renderChar ++ '"' :: ':' :: ((render j).toList ++
        if ms.isEmpty then [] else ',' :: (renderMembers ms).toList)) := by
  cases ms with
  | nil => simp [renderMembers, toList_renderString]
  | cons m ms => simp [renderMembers, toList_renderString]

theorem renderItems_head {j : Json} {js : List Json} (exact : itemsExact (j :: js) = true) :
    ∃ c cs, (renderItems (j :: js)).toList = c :: cs ∧ Opens c := by
  rw [itemsExact, Bool.and_eq_true] at exact
  obtain ⟨c, cs, head, opens⟩ := render_head exact.1
  exact ⟨c, _, by rw [renderItems_cons, head, List.cons_append], opens⟩

/-! ### The whole value

Every reader takes a unit of fuel for itself. A text has at least one character for each value and
each mark between values, so twice its length is enough. -/

def ValuesRead (fuel : Nat) : Prop :=
  ∀ (j : Json) (rest : List Char), j.isExact = true → Ends rest →
    2 * (render j).toList.length ≤ fuel →
    readValue? fuel ((render j).toList ++ rest) = some (j, rest)

def ItemsRead (fuel : Nat) : Prop :=
  ∀ (items acc : List Json) (rest : List Char), items ≠ [] → itemsExact items = true →
    2 * (renderItems items).toList.length < fuel →
    readItems? fuel acc ((renderItems items).toList ++ ']' :: rest) =
      some (acc.reverse ++ items, rest)

def MembersRead (fuel : Nat) : Prop :=
  ∀ (members : List (String × Json)) (acc : List (Option String × Json)) (rest : List Char),
    members ≠ [] → membersExact members = true →
    2 * (renderMembers members).toList.length < fuel →
    readMembers? fuel acc ((renderMembers members).toList ++ '\x7d' :: rest) =
      some (acc.reverse ++ members.map fun m => (some m.1, m.2), rest)

variable {fuel : Nat}

theorem ends_comma (rest : List Char) : Ends (',' :: rest) := by simp [Ends]

theorem ends_bracket (rest : List Char) : Ends (']' :: rest) := by simp [Ends]

theorem ends_brace (rest : List Char) : Ends ('\x7d' :: rest) := by simp [Ends]

theorem valuesRead_succ (items : ItemsRead fuel) (members : MembersRead fuel) :
    ValuesRead (fuel + 1) := by
  intro j rest exact ends enough
  cases j with
  | null => simp [render, readValue?, skipSpace, dropWord?]
  | bool b => cases b <;> simp [render, readValue?, skipSpace, dropWord?]
  | integer i =>
    simp only [isExact, Bool.and_eq_true, decide_eq_true_eq] at exact
    obtain ⟨c, cs, head, numeral⟩ := decimal_head i
    have number := readNumber?_decimal exact.1 exact.2 ends
    rw [head] at number
    rw [render, head]
    exact (readValue?_number numeral fuel _).trans number
  | string s =>
    have opens : Opens '"' := by decide
    rw [render, toList_renderString, List.cons_append, List.append_assoc, List.singleton_append,
      readValue?, skipSpace_of_opens opens]
    simp only [readString?_body, Option.bind_eq_bind, Option.bind_some]
    rfl
  | array js =>
    have opens : Opens '[' := by decide
    have text : (render (.array js)).toList ++ rest =
        '[' :: ((renderItems js).toList ++ ']' :: rest) := by
      simp [render]
    have length : (render (.array js)).toList.length = (renderItems js).toList.length + 2 := by
      simp [render]
    rw [text, readValue?, skipSpace_of_opens opens]
    cases js with
    | nil => simp [renderItems, skipSpace]
    | cons j js =>
      obtain ⟨c, cs, head, opens⟩ := renderItems_head exact
      have read := items (j :: js) [] rest (List.cons_ne_nil j js) exact (by omega)
      rw [head, List.cons_append] at read ⊢
      simp only [skipSpace_of_opens opens]
      split
      · rename_i closed
        exact absurd (List.cons.inj closed).1 opens.2.2.2.2.1
      · rw [read]
        rfl
  | object ms =>
    have opens : Opens '\x7b' := by decide
    have text : (render (.object ms)).toList ++ rest =
        '\x7b' :: ((renderMembers ms).toList ++ '\x7d' :: rest) := by
      simp [render]
    have length : (render (.object ms)).toList.length = (renderMembers ms).toList.length + 2 := by
      simp [render]
    rw [text, readValue?, skipSpace_of_opens opens]
    cases ms with
    | nil => simp [renderMembers, skipSpace]
    | cons m ms =>
      have read := members (m :: ms) [] rest (List.cons_ne_nil m ms) exact (by omega)
      have quoted : Opens '"' := by decide
      obtain ⟨body, head⟩ : ∃ body, (renderMembers (m :: ms)).toList = '"' :: body :=
        ⟨_, renderMembers_cons m.1 m.2 ms⟩
      rw [head, List.cons_append] at read ⊢
      simp only [skipSpace_of_opens quoted]
      split
      · rename_i closed
        exact absurd (List.cons.inj closed).1 quoted.2.2.2.2.2
      · rw [read, List.reverse_nil, List.nil_append]
        simp only [Option.bind_eq_bind, Option.bind_some, ofMembers_named]
        rfl
  | real x => cases exact
  | unreadable => cases exact

theorem itemsRead_succ (values : ValuesRead fuel) (items : ItemsRead fuel) :
    ItemsRead (fuel + 1) := by
  intro js acc rest something exact enough
  cases js with
  | nil => exact absurd rfl something
  | cons j js =>
    rw [itemsExact, Bool.and_eq_true] at exact
    have text := renderItems_cons j js
    rw [text, List.length_append] at enough
    rw [text, List.append_assoc, readItems?]
    cases js with
    | nil =>
      have read := values j (']' :: rest) exact.1 (ends_bracket rest) (by omega)
      simp [read, skipSpace]
    | cons j' js =>
      have length : (if (j' :: js).isEmpty then [] else ',' :: (renderItems (j' :: js)).toList).length =
          (renderItems (j' :: js)).toList.length + 1 := rfl
      have read := values j (',' :: ((renderItems (j' :: js)).toList ++ ']' :: rest)) exact.1
        (ends_comma _) (by omega)
      have later := items (j' :: js) (j :: acc) rest (List.cons_ne_nil j' js) exact.2 (by omega)
      simp [read, skipSpace, later]

theorem membersRead_succ (values : ValuesRead fuel) (members : MembersRead fuel) :
    MembersRead (fuel + 1) := by
  intro ms acc rest something exact enough
  cases ms with
  | nil => exact absurd rfl something
  | cons m ms =>
    obtain ⟨name, j⟩ := m
    rw [membersExact, Bool.and_eq_true] at exact
    have quoted : Opens '"' := by decide
    have text := renderMembers_cons name j ms
    have length := congrArg List.length text
    simp only [List.length_cons, List.length_append] at length
    rw [text, List.cons_append, List.append_assoc, List.cons_append, List.cons_append,
      List.append_assoc, readMembers?, skipSpace_of_opens quoted]
    simp only [readString?_body, Option.bind_eq_bind, Option.bind_some]
    rw [skipSpace_of_opens (by decide)]
    cases ms with
    | nil =>
      have read := values j ('\x7d' :: rest) exact.1 (ends_brace rest) (by omega)
      simp [read, skipSpace]
    | cons m ms =>
      have rest_length : (if (m :: ms).isEmpty then []
          else ',' :: (renderMembers (m :: ms)).toList).length =
          (renderMembers (m :: ms)).toList.length + 1 := rfl
      have read := values j (',' :: ((renderMembers (m :: ms)).toList ++ '\x7d' :: rest)) exact.1
        (ends_comma _) (by omega)
      have later := members (m :: ms) ((some name, j) :: acc) rest (List.cons_ne_nil m ms) exact.2
        (by omega)
      simp [read, skipSpace, later]

theorem allRead (fuel : Nat) : ValuesRead fuel ∧ ItemsRead fuel ∧ MembersRead fuel := by
  induction fuel with
  | zero =>
    refine ⟨fun j rest exact _ enough => ?_, fun _ _ _ _ _ enough => ?_, fun _ _ _ _ _ enough => ?_⟩
    · obtain ⟨c, cs, head, -⟩ := render_head exact
      rw [head, List.length_cons] at enough
      omega
    · omega
    · omega
  | succ fuel ih =>
    obtain ⟨values, items, members⟩ := ih
    exact ⟨valuesRead_succ items members, itemsRead_succ values items,
      membersRead_succ values members⟩

/-- A value is read back from its text. -/
theorem parse_render {j : Json} (exact : j.isExact = true) : parse (render j) = some j := by
  have read := (allRead (2 * (render j).toList.length + 2)).1 j [] exact (by simp [Ends]) (by omega)
  rw [List.append_nil] at read
  simp [parse, read, skipSpace]

end HealthWatch.Json
