/-!
# Lists by key

A list of keys and values in the order of a text. `List.lookup` finds the first value of a key,
and `put` changes it; `lookup_put` says that it changes nothing else.
-/

namespace HealthWatch.Keyed

variable {α : Type}

/-- The list with another value under a key; a new key comes last. -/
def put (key : String) (value : α) : List (String × α) → List (String × α)
  | [] => [(key, value)]
  | (k, v) :: rest => if k = key then (key, value) :: rest else (k, v) :: put key value rest

theorem lookup_cons_of_ne {key k : String} (h : k ≠ key) (value : α) (rest : List (String × α)) :
    ((key, value) :: rest).lookup k = rest.lookup k := by
  have hb : (k == key) = false := beq_eq_false_iff_ne.mpr h
  rw [List.lookup_cons, hb]

theorem lookup_put (key k : String) (value : α) (l : List (String × α)) :
    (put key value l).lookup k = if k = key then some value else l.lookup k := by
  induction l with
  | nil =>
    by_cases h : k = key
    · subst h
      simp [put]
    · simp [put, lookup_cons_of_ne h, h]
  | cons e rest ih =>
    obtain ⟨k', v⟩ := e
    by_cases hk : k' = key
    · subst hk
      by_cases h : k = k'
      · subst h
        simp [put]
      · simp [put, lookup_cons_of_ne h, h]
    · by_cases h : k = k'
      · subst h
        simp [put, hk]
      · simp [put, hk, lookup_cons_of_ne h, ih]

end HealthWatch.Keyed
