import HealthWatch.Proofs.Scale.Construction
import HealthWatch.Proofs.Text.Tokens
import HealthWatch.Scale.Parser
import Mathlib.Data.List.Forall2

/-!
# The grammar of scales

A text spells a scale if it is blank, or if one or two tokens stand between its commas and can all
be read. `parse_grammar` says that just these texts are accepted, and what is reported of any other:
the first token that cannot be read, however many there are, and the number of tokens only if all
can be read.
-/

namespace HealthWatch.Scale

open Threshold (Kind)

/-! ### Tokens -/

/-- The tokens are what stands between the commas of the text, trimmed. -/
def Tokenized (text : String) (parts : List String) : Prop :=
  ∃ pieces : List (List Char), pieces ≠ [] ∧ (∀ piece ∈ pieces, ',' ∉ piece) ∧
    [','].intercalate pieces = text.toList ∧
    List.Forall₂ (fun piece part => Text.Trimmed piece part.toList) pieces parts

theorem tokenized_iff {text : String} {parts : List String} :
    Tokenized text parts ↔ tokens text = parts := by
  have trimmed : ∀ pieces parts,
      List.Forall₂ (fun piece part => Text.Trimmed piece part.toList) pieces parts ↔
        pieces.map (fun cs => String.ofList (Text.trimChars cs)) = parts := by
    intro pieces parts
    rw [← List.forall₂_eq_eq_eq, List.forall₂_map_left_iff]
    simp only [Text.trimmed_iff, ← String.toList_inj, String.toList_ofList]
  constructor
  · rintro ⟨pieces, nonempty, apart, joined, inner⟩
    rw [tokens, Text.pieces_eq_iff.mpr ⟨nonempty, apart, joined⟩]
    exact (trimmed pieces parts).mp inner
  · intro split
    obtain ⟨nonempty, apart, joined⟩ := Text.pieces_eq_iff.mp (rfl : Text.pieces ',' text.toList = _)
    exact ⟨_, nonempty, apart, joined, (trimmed _ parts).mpr split⟩

/-! ### Reading tokens -/

section Reading

variable {α ε : Type} {read : String → Except ε α} {text token : String} {parts : List String}
  {values : List α} {problem : ε} {fault : ParseFault ε}

/-- The token cannot be read, for the given reason, and all tokens before it can. -/
def FirstBad (read : String → Except ε α) (parts : List String) (token : String) (problem : ε) :
    Prop :=
  ∃ before after, parts = before ++ token :: after ∧
    (∀ part ∈ before, ∃ value, read part = .ok value) ∧ read token = .error problem

theorem firstBad_cons_of_bad {part : String} (bad : read part = .error problem) {other : ε} :
    FirstBad read (part :: parts) token other ↔ token = part ∧ other = problem := by
  constructor
  · rintro ⟨before, after, split, good, fails⟩
    cases before with
    | nil =>
      obtain ⟨rfl, -⟩ := List.cons.inj split
      exact ⟨rfl, Except.error.inj (fails.symm.trans bad)⟩
    | cons first before =>
      obtain ⟨rfl, -⟩ := List.cons.inj split
      obtain ⟨value, works⟩ := good part List.mem_cons_self
      rw [bad] at works
      cases works
  · rintro ⟨rfl, rfl⟩
    exact ⟨[], parts, rfl, by simp, bad⟩

theorem firstBad_cons_of_good {part : String} {value : α} (good : read part = .ok value) :
    FirstBad read (part :: parts) token problem ↔ FirstBad read parts token problem := by
  constructor
  · rintro ⟨before, after, split, earlier, fails⟩
    cases before with
    | nil =>
      obtain ⟨rfl, -⟩ := List.cons.inj split
      rw [good] at fails
      cases fails
    | cons first before =>
      obtain ⟨rfl, rfl⟩ := List.cons.inj split
      exact ⟨before, after, rfl, (List.forall_mem_cons.mp earlier).2, fails⟩
  · rintro ⟨before, after, rfl, earlier, fails⟩
    exact ⟨part :: before, after, rfl, List.forall_mem_cons.mpr ⟨⟨value, good⟩, earlier⟩, fails⟩

theorem readTokens_eq_ok_iff : readTokens read text parts = .ok values ↔
    List.Forall₂ (fun part value => read part = .ok value) parts values := by
  induction parts generalizing values with
  | nil => cases values <;> simp [readTokens]
  | cons part parts ih =>
    rw [readTokens]
    cases own : read part with
    | error problem => cases values <;> simp [own]
    | ok value =>
      cases later : readTokens read text parts with
      | error fault => cases values <;> simp [own, ← ih, later]
      | ok rest => cases values <;> simp [own, ← ih, later]

theorem readTokens_eq_error_iff : readTokens read text parts = .error fault ↔
    ∃ token problem, FirstBad read parts token problem ∧ fault = .badToken token text problem := by
  induction parts with
  | nil => simp [readTokens, FirstBad]
  | cons part parts ih =>
    rw [readTokens]
    cases own : read part with
    | error problem =>
      simp only [firstBad_cons_of_bad own, Except.error.injEq]
      constructor
      · rintro rfl
        exact ⟨part, problem, ⟨rfl, rfl⟩, rfl⟩
      · rintro ⟨-, -, ⟨rfl, rfl⟩, rfl⟩
        rfl
    | ok value =>
      simp only [firstBad_cons_of_good own, ← ih]
      cases readTokens read text parts <;> simp

theorem exists_readTokens_iff : (∃ values, readTokens read text parts = .ok values) ↔
    ∀ part ∈ parts, ∃ value, read part = .ok value := by
  induction parts with
  | nil => simp [readTokens]
  | cons part parts ih =>
    rw [List.forall_mem_cons, ← ih, readTokens]
    cases read part <;> cases readTokens read text parts <;> simp

end Reading

/-! ### Texts that spell scales -/

variable {α ε : Type} [Quantity α] {read : String → Except ε α} {text : String} {s : Scale α}
  {fault : ParseFault ε}

inductive Spelled (read : String → Except ε α) (text : String) : Scale α → Prop
  | blank (nothing : ∀ c ∈ text.toList, Text.isBlank c = true) : Spelled read text empty
  | one {token : String} {critical : α} (something : ∃ c ∈ text.toList, Text.isBlank c = false)
      (tokenized : Tokenized text [token]) (reads : read token = .ok critical) :
      Spelled read text (Bounds.ofCalls [(.critical, critical)]).scale
  | two {first second : String} {warning critical : α}
      (something : ∃ c ∈ text.toList, Text.isBlank c = false)
      (tokenized : Tokenized text [first, second])
      (reads : read first = .ok warning ∧ read second = .ok critical) :
      Spelled read text (Bounds.ofCalls [(.warning, warning), (.critical, critical)]).scale

inductive Misspelled (read : String → Except ε α) (text : String) : ParseFault ε → Prop
  | badToken {parts : List String} {token : String} {problem : ε}
      (something : ∃ c ∈ text.toList, Text.isBlank c = false) (tokenized : Tokenized text parts)
      (bad : FirstBad read parts token problem) :
      Misspelled read text (.badToken token text problem)
  | tooMany {parts : List String} (something : ∃ c ∈ text.toList, Text.isBlank c = false)
      (tokenized : Tokenized text parts) (many : 3 ≤ parts.length)
      (reads : ∀ part ∈ parts, ∃ value, read part = .ok value) :
      Misspelled read text (.tooMany parts.length text)

theorem parse_eq (something : ∃ c ∈ text.toList, Text.isBlank c = false) {parts : List String}
    (tokenized : Tokenized text parts) :
    parse read text =
      match readTokens read text parts with
      | .error fault => .error fault
      | .ok [critical] => .ok (Bounds.ofCalls [(.critical, critical)]).scale
      | .ok [warning, critical] =>
        .ok (Bounds.ofCalls [(.warning, warning), (.critical, critical)]).scale
      | .ok values => .error (.tooMany values.length text) := by
  have visible : ¬Text.blank text = true := by simpa [Text.blank] using something
  rw [parse, if_neg visible, tokenized_iff.mp tokenized]
  rfl

theorem Spelled.parse_eq_ok (spelled : Spelled read text s) : parse read text = .ok s := by
  cases spelled with
  | blank nothing => exact if_pos (List.all_eq_true.mpr nothing)
  | one something tokenized reads => rw [parse_eq something tokenized, readTokens, reads]; rfl
  | two something tokenized reads =>
    simp only [parse_eq something tokenized, readTokens, reads.1, reads.2]

theorem Misspelled.parse_eq_error (misspelled : Misspelled read text fault) :
    parse read text = .error fault := by
  cases misspelled with
  | badToken something tokenized bad =>
    rw [parse_eq something tokenized, readTokens_eq_error_iff.mpr ⟨_, _, bad, rfl⟩]
  | @tooMany parts something tokenized many reads =>
    obtain ⟨values, read⟩ := exists_readTokens_iff.mpr reads
    have count := (readTokens_eq_ok_iff.mp read).length_eq
    rw [parse_eq something tokenized, read, count]
    obtain _ | ⟨first, _ | ⟨second, _ | ⟨third, rest⟩⟩⟩ := values
    · simp [count] at many
    · simp [count] at many
    · simp [count] at many
    · rfl

theorem spelled_or_misspelled (read : String → Except ε α) (text : String) :
    (∃ s, Spelled read text s) ∨ ∃ fault, Misspelled read text fault := by
  by_cases nothing : ∀ c ∈ text.toList, Text.isBlank c = true
  · exact .inl ⟨empty, .blank nothing⟩
  have something : ∃ c ∈ text.toList, Text.isBlank c = false := by simpa using nothing
  have tokenized : Tokenized text (tokens text) := tokenized_iff.mpr rfl
  cases outcome : readTokens read text (tokens text) with
  | error fault =>
    obtain ⟨token, problem, bad, rfl⟩ := readTokens_eq_error_iff.mp outcome
    exact .inr ⟨_, .badToken something tokenized bad⟩
  | ok values =>
    have reads := readTokens_eq_ok_iff.mp outcome
    have all := exists_readTokens_iff.mp ⟨values, outcome⟩
    match parts : tokens text with
    | [] => exact absurd parts (by simp [tokens, Text.pieces_ne_nil])
    | [token] =>
      obtain ⟨critical, own⟩ := all token (by simp [parts])
      exact .inl ⟨_, .one something (parts ▸ tokenized) own⟩
    | [first, second] =>
      obtain ⟨warning, low⟩ := all first (by simp [parts])
      obtain ⟨critical, high⟩ := all second (by simp [parts])
      exact .inl ⟨_, .two something (parts ▸ tokenized) ⟨low, high⟩⟩
    | first :: second :: third :: rest =>
      exact .inr ⟨_, .tooMany something tokenized (by simp [parts]) all⟩

/-- What is accepted, and what is reported of any other text.

* A scale is read from the texts that spell it, and from no others.
* A text that spells none is reported with its first token that cannot be read, and only if all can
  be read with their number.
* The message on a token quotes it, trimmed, and the text as it was given, and ends in the words of
  the one that could not read it. -/
theorem parse_grammar (read : String → Except ε α) (text : String) :
    (∀ s, parse read text = .ok s ↔ Spelled read text s) ∧
    (∀ fault, parse read text = .error fault ↔ Misspelled read text fault) ∧
    ∀ explain : ε → String,
      (∀ token problem, (ParseFault.badToken token text problem).message explain =
        "'" ++ token ++ "' in '" ++ text ++ "': " ++ explain problem) ∧
      ∀ count, (ParseFault.tooMany count text).message explain =
        "expected at most two values, got " ++ Numeral.natural count ++ " in '" ++ text ++ "'" := by
  refine ⟨fun s => ⟨fun parsed => ?_, Spelled.parse_eq_ok⟩,
    fun fault => ⟨fun failed => ?_, Misspelled.parse_eq_error⟩, fun explain => ⟨?_, ?_⟩⟩
  · rcases spelled_or_misspelled read text with ⟨other, spelled⟩ | ⟨fault, misspelled⟩
    · obtain rfl := Except.ok.inj (spelled.parse_eq_ok.symm.trans parsed)
      exact spelled
    · cases misspelled.parse_eq_error.symm.trans parsed
  · rcases spelled_or_misspelled read text with ⟨s, spelled⟩ | ⟨other, misspelled⟩
    · cases spelled.parse_eq_ok.symm.trans failed
    · obtain rfl := Except.error.inj (misspelled.parse_eq_error.symm.trans failed)
      exact misspelled
  · exact fun token problem => rfl
  · exact fun count => rfl

/-- Three tokens are too many, but an empty one cannot be read. -/
example :
    (parse (α := Numeral.Sized .u8) Legible.read "1,\u3000,3").mapError
        (·.message NumeralFault.message) =
      .error "'' in '1,\u3000,3': cannot parse integer from empty string" := by
  decide +kernel

end HealthWatch.Scale
