/-!
# Pieces of a text

`pieces` cuts a text at every separator. `intercalate_pieces` says that nothing but the separators
is lost.
-/

namespace HealthWatch.Text

/-- The pieces of a text between separators; there is always at least one. -/
def pieces (separator : Char) : List Char → List (List Char)
  | [] => [[]]
  | c :: cs =>
    if c = separator then [] :: pieces separator cs
    else
      match pieces separator cs with
      | [] => [[c]]
      | piece :: rest => (c :: piece) :: rest

theorem pieces_ne_nil (separator : Char) (cs : List Char) : pieces separator cs ≠ [] := by
  cases cs with
  | nil => simp [pieces]
  | cons c cs =>
    unfold pieces
    split
    · simp
    · split <;> simp

/-- The pieces with the separators between them are the text. -/
theorem intercalate_pieces (separator : Char) (cs : List Char) :
    [separator].intercalate (pieces separator cs) = cs := by
  induction cs with
  | nil => rfl
  | cons c cs ih =>
    unfold pieces
    split
    · next h =>
      cases hp : pieces separator cs with
      | nil => exact absurd hp (pieces_ne_nil separator cs)
      | cons piece rest =>
        rw [hp] at ih
        simp only [List.intercalate] at ih ⊢
        rw [← ih, h]
        simp
    · split
      · next hp => exact absurd hp (pieces_ne_nil separator cs)
      · next piece rest hp =>
        rw [hp] at ih
        rw [← ih]
        cases rest <;> simp [List.intercalate]

end HealthWatch.Text
