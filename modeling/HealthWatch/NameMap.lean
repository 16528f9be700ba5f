import HealthWatch.Keyed

/-!
# Maps from names

A `NameMap` holds at most one value under a name and lists its entries by name, in the order of code
points. `find?_insert` says what an insertion does to a look-up, and `ext` that two maps with the
same entries are equal.
-/

namespace HealthWatch

/-- The names ascend strictly, so no name stands twice. -/
def Ascending {α : Type} (entries : List (String × α)) : Prop :=
  entries.Pairwise fun a b => a.1 < b.1

/-- A finite map from names. -/
@[ext]
structure NameMap (α : Type) where
  entries : List (String × α)
  ascending : Ascending entries

namespace NameMap

variable {α β : Type}

/-- Inserts an entry at its place; an entry of the same name is replaced. -/
def insertEntry (name : String) (value : α) : List (String × α) → List (String × α)
  | [] => [(name, value)]
  | (n, v) :: rest =>
    if name < n then (name, value) :: (n, v) :: rest
    else if name = n then (name, value) :: rest
    else (n, v) :: insertEntry name value rest

theorem mem_insertEntry {name : String} {value : α} {e : String × α} {l : List (String × α)}
    (h : e ∈ insertEntry name value l) : e = (name, value) ∨ e ∈ l := by
  induction l with
  | nil => simpa [insertEntry] using h
  | cons e' rest ih =>
    obtain ⟨n, v⟩ := e'
    rw [insertEntry] at h
    split at h
    · simpa using h
    · split at h
      · simp only [List.mem_cons] at h ⊢
        rcases h with h | h
        · exact .inl h
        · exact .inr (.inr h)
      · simp only [List.mem_cons] at h ⊢
        rcases h with h | h
        · exact .inr (.inl h)
        · rcases ih h with h | h
          · exact .inl h
          · exact .inr (.inr h)

theorem lt_of_not_le {a b : String} (h : ¬a < b) (hne : a ≠ b) : b < a := by
  rcases String.le_total a b with hab | hba
  · exact absurd (Std.lt_of_le_of_ne hab hne) h
  · exact Std.lt_of_le_of_ne hba (Ne.symm hne)

theorem ascending_insertEntry (name : String) (value : α) {l : List (String × α)}
    (h : Ascending l) : Ascending (insertEntry name value l) := by
  induction l with
  | nil => exact List.pairwise_singleton ..
  | cons e rest ih =>
    obtain ⟨n, v⟩ := e
    have ⟨hn, hrest⟩ := List.pairwise_cons.mp h
    rw [insertEntry]
    split
    · rename_i hlt
      refine List.pairwise_cons.mpr ⟨fun e he => ?_, h⟩
      rcases List.mem_cons.mp he with rfl | he
      · exact hlt
      · exact String.lt_trans hlt (hn e he)
    · rename_i hlt
      split
      · rename_i heq
        subst heq
        exact List.pairwise_cons.mpr ⟨hn, hrest⟩
      · rename_i hne
        refine List.pairwise_cons.mpr ⟨fun e he => ?_, ih hrest⟩
        rcases mem_insertEntry he with rfl | he
        · exact lt_of_not_le hlt hne
        · exact hn e he

def empty : NameMap α := ⟨[], List.Pairwise.nil⟩

def insert (m : NameMap α) (name : String) (value : α) : NameMap α :=
  ⟨insertEntry name value m.entries, ascending_insertEntry name value m.ascending⟩

/-- The entries inserted one after another: the last one of a name stays. -/
def ofList (entries : List (String × α)) : NameMap α :=
  entries.foldl (fun m e => m.insert e.1 e.2) empty

def find? (m : NameMap α) (name : String) : Option α :=
  m.entries.lookup name

def contains (m : NameMap α) (name : String) : Bool :=
  (m.find? name).isSome

def names (m : NameMap α) : List String :=
  m.entries.map (·.1)

def values (m : NameMap α) : List α :=
  m.entries.map (·.2)

def size (m : NameMap α) : Nat :=
  m.entries.length

def filter (m : NameMap α) (p : String → Bool) : NameMap α :=
  ⟨m.entries.filter fun e => p e.1, m.ascending.filter _⟩

def map (m : NameMap α) (f : String → α → β) : NameMap β :=
  ⟨m.entries.map fun e => (e.1, f e.1 e.2),
    List.pairwise_map.mpr (m.ascending.imp fun h => h)⟩

/-! ### Looking up -/

@[simp] theorem find?_empty (name : String) : (empty : NameMap α).find? name = none := rfl

theorem lookup_insertEntry (name n : String) (value : α) (l : List (String × α)) :
    (insertEntry n value l).lookup name = if name = n then some value else l.lookup name := by
  induction l with
  | nil =>
    by_cases h : name = n
    · subst h
      simp [insertEntry]
    · simp [insertEntry, Keyed.lookup_cons_of_ne h, h]
  | cons e rest ih =>
    obtain ⟨k, v⟩ := e
    rw [insertEntry]
    split
    · by_cases h : name = n
      · subst h
        simp
      · simp [Keyed.lookup_cons_of_ne h, h]
    · split
      · rename_i _ heq
        subst heq
        by_cases h : name = n
        · subst h
          simp
        · simp [Keyed.lookup_cons_of_ne h, h]
      · rename_i _ hne
        by_cases h : name = k
        · subst h
          simp [Ne.symm hne]
        · simp [Keyed.lookup_cons_of_ne h, ih]

theorem find?_insert (m : NameMap α) (n name : String) (value : α) :
    (m.insert n value).find? name = if name = n then some value else m.find? name :=
  lookup_insertEntry name n value m.entries

@[simp] theorem names_map (m : NameMap α) (f : String → α → β) : (m.map f).names = m.names := by
  simp [names, map, Function.comp_def]

@[simp] theorem names_filter (m : NameMap α) (p : String → Bool) :
    (m.filter p).names = m.names.filter p := by
  simp only [names, filter]
  induction m.entries with
  | nil => rfl
  | cons e rest ih => by_cases h : p e.1 <;> simp [h, ih]

end NameMap

end HealthWatch
