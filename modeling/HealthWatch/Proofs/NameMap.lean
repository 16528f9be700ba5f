import HealthWatch.NameMap
import Mathlib.Data.List.Induction

/-!
# Maps from ascending entries

Entries that ascend already are kept as they stand by `NameMap.ofList`. Each is found under its
name, and nothing else is. Choosing names and replacing values go through a look-up. A map is known
by its look-ups (`ext_find?`), so a list with one value under each key makes the same map as putting
its values in one after another (`ofList_puts`), and as any permutation of the list (`ofList_perm`).
-/

namespace HealthWatch

variable {α : Type}

theorem Ascending.different {e : String × α} {rest : List (String × α)}
    (ascending : Ascending (e :: rest)) : ∀ f ∈ rest, f.1 ≠ e.1 := by
  intro f member same
  have above := (List.pairwise_cons.mp ascending).1 f member
  exact String.lt_irrefl _ (same ▸ above)

namespace NameMap

theorem insertEntry_last {name : String} {value : α} {l : List (String × α)}
    (above : ∀ e ∈ l, e.1 < name) : insertEntry name value l = l ++ [(name, value)] := by
  induction l with
  | nil => rfl
  | cons e rest ih =>
    obtain ⟨first, later⟩ := List.forall_mem_cons.mp above
    have behind : ¬name < e.1 := fun before => String.lt_irrefl _ (String.lt_trans first before)
    have different : name ≠ e.1 := fun same => String.lt_irrefl _ (same ▸ first)
    rw [insertEntry, if_neg behind, if_neg different, ih later, List.cons_append]

theorem entries_foldl_insert {l : List (String × α)} (m : NameMap α)
    (ascending : Ascending (m.entries ++ l)) :
    (l.foldl (fun m e => m.insert e.1 e.2) m).entries = m.entries ++ l := by
  induction l generalizing m with
  | nil => simp
  | cons e rest ih =>
    have ⟨_, _, across⟩ := List.pairwise_append.mp ascending
    have inserted : (m.insert e.1 e.2).entries = m.entries ++ [e] :=
      insertEntry_last fun old member => across old member e List.mem_cons_self
    have shifted : m.entries ++ e :: rest = (m.insert e.1 e.2).entries ++ rest := by
      rw [inserted, List.append_assoc, List.singleton_append]
    rw [List.foldl_cons, shifted]
    exact ih _ (shifted ▸ ascending)

theorem entries_ofList {l : List (String × α)} (ascending : Ascending l) :
    (ofList l).entries = l :=
  entries_foldl_insert empty ascending

/-- What a round collects under ascending names. -/
theorem entries_collected {β : Type} {l : List (String × β)} (ascending : Ascending l)
    (f : String × β → α) :
    (l.foldl (fun m e => m.insert e.1 (f e)) empty).entries = l.map fun e => (e.1, f e) := by
  have mapped : Ascending (l.map fun e => (e.1, f e)) := List.pairwise_map.mpr ascending
  have collected := entries_ofList mapped
  rwa [ofList, List.foldl_map] at collected

theorem find?_of_mem {m : NameMap α} {e : String × α} (member : e ∈ m.entries) :
    m.find? e.1 = some e.2 := by
  have found : ∀ {l : List (String × α)}, Ascending l → e ∈ l → l.lookup e.1 = some e.2 := by
    intro l ascending member
    induction l with
    | nil => cases member
    | cons head rest ih =>
      rcases List.mem_cons.mp member with rfl | member
      · exact List.lookup_cons_self
      · rw [← ih (List.pairwise_cons.mp ascending).2 member,
          Keyed.lookup_cons_of_ne (ascending.different e member)]
  exact found m.ascending member

theorem mem_of_find? {m : NameMap α} {name : String} {value : α}
    (found : m.find? name = some value) : (name, value) ∈ m.entries := by
  have listed : ∀ {l : List (String × α)}, l.lookup name = some value → (name, value) ∈ l := by
    intro l found
    induction l with
    | nil => cases found
    | cons e rest ih =>
      by_cases same : name = e.1
      · subst same
        rw [List.lookup_cons_self] at found
        obtain rfl := Option.some.inj found
        exact List.mem_cons_self
      · rw [Keyed.lookup_cons_of_ne same] at found
        exact List.mem_cons_of_mem _ (ih found)
  exact listed found

theorem find?_eq_some_iff {m : NameMap α} {name : String} {value : α} :
    m.find? name = some value ↔ (name, value) ∈ m.entries :=
  ⟨mem_of_find?, find?_of_mem⟩

theorem contains_iff {m : NameMap α} {name : String} : m.contains name = true ↔ name ∈ m.names := by
  rw [contains, Option.isSome_iff_exists, names, List.mem_map]
  constructor
  · rintro ⟨value, found⟩
    exact ⟨(name, value), mem_of_find? found, rfl⟩
  · rintro ⟨e, member, rfl⟩
    exact ⟨e.2, find?_of_mem member⟩

theorem ascending_names (m : NameMap α) : m.names.Pairwise (· < ·) :=
  List.pairwise_map.mpr m.ascending

theorem find?_map {β : Type} (m : NameMap α) (f : String → α → β) (name : String) :
    (m.map f).find? name = (m.find? name).map (f name) := by
  simp only [find?, map]
  induction m.entries with
  | nil => rfl
  | cons e rest ih =>
    obtain ⟨n, value⟩ := e
    by_cases same : name = n
    · subst same
      simp
    · rw [List.map_cons, Keyed.lookup_cons_of_ne same, Keyed.lookup_cons_of_ne same, ih]

theorem find?_filter (m : NameMap α) (p : String → Bool) (name : String) :
    (m.filter p).find? name = if p name then m.find? name else none := by
  simp only [find?, filter]
  induction m.entries with
  | nil => simp
  | cons e rest ih =>
    obtain ⟨n, value⟩ := e
    rw [List.filter_cons]
    by_cases same : name = n
    · subst same
      by_cases chosen : p name
      · simp [chosen]
      · simpa [chosen] using ih
    · rw [Keyed.lookup_cons_of_ne same, ← ih]
      split
      · exact Keyed.lookup_cons_of_ne same ..
      · rfl

/-! ### Maps with the same look-ups -/

theorem lookup_of_below {name : String} {l : List (String × α)} (below : ∀ e ∈ l, name < e.1) :
    l.lookup name = none := by
  induction l with
  | nil => rfl
  | cons e rest ih =>
    obtain ⟨first, later⟩ := List.forall_mem_cons.mp below
    have other : name ≠ e.1 := fun same => String.lt_irrefl _ (same ▸ first)
    rw [Keyed.lookup_cons_of_ne other, ih later]

theorem not_lt_head {name : String} {e : String × α} {rest : List (String × α)}
    (ascending : Ascending (e :: rest)) (found : ((e :: rest).lookup name).isSome = true) :
    ¬name < e.1 := by
  intro before
  have below : ∀ f ∈ e :: rest, name < f.1 := by
    refine List.forall_mem_cons.mpr ⟨before, fun f member => ?_⟩
    exact String.lt_trans before ((List.pairwise_cons.mp ascending).1 f member)
  rw [lookup_of_below below] at found
  cases found

theorem eq_of_lookup {l l' : List (String × α)} (ascending : Ascending l)
    (ascending' : Ascending l') (same : ∀ name, l.lookup name = l'.lookup name) : l = l' := by
  induction l generalizing l' with
  | nil =>
    cases l' with
    | nil => rfl
    | cons f rest' =>
      have found := same f.1
      rw [List.lookup_cons_self] at found
      cases found
  | cons e rest ih =>
    cases l' with
    | nil =>
      have found := same e.1
      rw [List.lookup_cons_self] at found
      cases found
    | cons f rest' =>
      have first : e.1 = f.1 := by
        refine Decidable.byContradiction fun different => ?_
        have after : ¬e.1 < f.1 :=
          not_lt_head ascending' (by rw [← same, List.lookup_cons_self]; rfl)
        have before : ¬f.1 < e.1 :=
          not_lt_head ascending (by rw [same, List.lookup_cons_self]; rfl)
        exact before (lt_of_not_le after different)
      have value := same e.1
      rw [List.lookup_cons_self, first, List.lookup_cons_self] at value
      have head : e = f := Prod.ext first (Option.some.inj value)
      subst head
      obtain ⟨above, later⟩ := List.pairwise_cons.mp ascending
      obtain ⟨above', later'⟩ := List.pairwise_cons.mp ascending'
      rw [ih later later' fun name => ?_]
      by_cases this : name = e.1
      · rw [this, lookup_of_below above, lookup_of_below above']
      · have found := same name
        rwa [Keyed.lookup_cons_of_ne this, Keyed.lookup_cons_of_ne this] at found

theorem ext_find? {m m' : NameMap α} (same : ∀ name, m.find? name = m'.find? name) : m = m' :=
  NameMap.ext (eq_of_lookup m.ascending m'.ascending same)

theorem mem_foldl_insert {l : List (String × α)} {e : String × α} (m : NameMap α)
    (member : e ∈ (l.foldl (fun m e => m.insert e.1 e.2) m).entries) : e ∈ m.entries ∨ e ∈ l := by
  induction l generalizing m with
  | nil => exact .inl member
  | cons f rest ih =>
    rcases ih (m.insert f.1 f.2) member with old | later
    · rcases mem_insertEntry old with rfl | before
      · exact .inr List.mem_cons_self
      · exact .inl before
    · exact .inr (List.mem_cons_of_mem _ later)

theorem mem_of_mem_ofList {l : List (String × α)} {e : String × α}
    (member : e ∈ (ofList l).entries) : e ∈ l := by
  rcases mem_foldl_insert empty member with none | listed
  · cases none
  · exact listed

def Distinct (l : List (String × α)) : Prop :=
  l.Pairwise fun a b => a.1 ≠ b.1

theorem find?_foldl_insert {l : List (String × α)} (distinct : Distinct l) (m : NameMap α)
    (name : String) : (l.foldl (fun m e => m.insert e.1 e.2) m).find? name =
      (l.lookup name).or (m.find? name) := by
  induction l generalizing m with
  | nil => rfl
  | cons e rest ih =>
    obtain ⟨different, distinct⟩ := List.pairwise_cons.mp distinct
    rw [List.foldl_cons, ih distinct, find?_insert]
    by_cases same : name = e.1
    · have absent : rest.lookup e.1 = none :=
        List.lookup_eq_none_iff.mpr fun f member => by simpa using different f member
      rw [same, absent, if_pos rfl, List.lookup_cons_self]
      rfl
    · rw [if_neg same, Keyed.lookup_cons_of_ne same]

theorem find?_ofList {l : List (String × α)} (distinct : Distinct l) (name : String) :
    (ofList l).find? name = l.lookup name :=
  (find?_foldl_insert distinct empty name).trans (by simp)

/-! ### The entries of a list -/

theorem insertEntry_perm {name : String} {value : α} {l : List (String × α)}
    (absent : ∀ e ∈ l, e.1 ≠ name) : (insertEntry name value l).Perm ((name, value) :: l) := by
  induction l with
  | nil => rfl
  | cons e rest ih =>
    obtain ⟨other, absent⟩ := List.forall_mem_cons.mp absent
    rw [insertEntry]
    split
    · rfl
    · rw [if_neg (Ne.symm other)]
      exact ((ih absent).cons e).trans (List.Perm.swap ..)

theorem ofList_concat (l : List (String × α)) (e : String × α) :
    ofList (l ++ [e]) = (ofList l).insert e.1 e.2 :=
  List.foldl_append

/-- Of a repeated name the last value stays. -/
theorem find?_ofList_last (l : List (String × α)) (name : String) :
    (ofList l).find? name = l.reverse.lookup name := by
  induction l using List.reverseRecOn with
  | nil => rfl
  | append_singleton front e ih =>
    rw [ofList_concat, find?_insert, List.reverse_append, List.reverse_singleton,
      List.singleton_append]
    by_cases same : name = e.1
    · rw [if_pos same, same, List.lookup_cons_self]
    · rw [if_neg same, Keyed.lookup_cons_of_ne same, ih]

theorem entries_ofList_perm {l : List (String × α)} (distinct : Distinct l) :
    (ofList l).entries.Perm l := by
  induction l using List.reverseRecOn with
  | nil => rfl
  | append_singleton l e ih =>
    obtain ⟨distinct, -, across⟩ := List.pairwise_append.mp distinct
    have absent : ∀ f ∈ (ofList l).entries, f.1 ≠ e.1 :=
      fun f member => across f (mem_of_mem_ofList member) e List.mem_cons_self
    have inserted : (ofList (l ++ [e])).entries.Perm (e :: (ofList l).entries) := by
      rw [ofList_concat]
      exact insertEntry_perm absent
    exact (inserted.trans ((ih distinct).cons e)).trans (List.perm_append_singleton e l).symm

/-- The order in which different names are given does not matter. -/
theorem ofList_perm {l l' : List (String × α)} (distinct : Distinct l) (perm : l.Perm l') :
    ofList l = ofList l' := by
  have distinct' : Distinct l' := (perm.pairwise_iff Ne.symm).mp distinct
  refine ext_find? fun name => Option.ext fun value => ?_
  rw [find?_eq_some_iff, find?_eq_some_iff, (entries_ofList_perm distinct).mem_iff,
    (entries_ofList_perm distinct').mem_iff, perm.mem_iff]

/-! ### Values put in place -/

theorem mem_put {key : String} {value : α} {l : List (String × α)} {e : String × α}
    (member : e ∈ Keyed.put key value l) : e = (key, value) ∨ e ∈ l := by
  induction l with
  | nil => exact .inl (List.mem_singleton.mp member)
  | cons f rest ih =>
    rw [Keyed.put] at member
    split at member
    · rcases List.mem_cons.mp member with rfl | later
      · exact .inl rfl
      · exact .inr (List.mem_cons_of_mem _ later)
    · rcases List.mem_cons.mp member with rfl | later
      · exact .inr List.mem_cons_self
      · rcases ih later with new | old
        · exact .inl new
        · exact .inr (List.mem_cons_of_mem _ old)

theorem Distinct.put {l : List (String × α)} (distinct : Distinct l) (key : String) (value : α) :
    Distinct (Keyed.put key value l) := by
  induction l with
  | nil => exact List.pairwise_singleton ..
  | cons e rest ih =>
    obtain ⟨different, later⟩ := List.pairwise_cons.mp distinct
    rw [Keyed.put]
    split
    · rename_i same
      exact List.pairwise_cons.mpr ⟨fun f member => same ▸ different f member, later⟩
    · rename_i other
      refine List.pairwise_cons.mpr ⟨fun f member => ?_, ih later⟩
      rcases mem_put member with rfl | old
      · exact other
      · exact different f old

/-- Values put into a list one after another make the map that they make by themselves. -/
theorem ofList_puts (l : List (String × α)) :
    ofList (l.foldl (fun old e => Keyed.put e.1 e.2 old) []) = ofList l := by
  have put : ∀ (old : List (String × α)) (m : NameMap α), Distinct old →
      (∀ name, old.lookup name = m.find? name) →
      ofList (l.foldl (fun old e => Keyed.put e.1 e.2 old) old) =
        l.foldl (fun m e => m.insert e.1 e.2) m := by
    induction l with
    | nil =>
      intro old m distinct same
      exact ext_find? fun name => (find?_ofList distinct name).trans (same name)
    | cons e rest ih =>
      intro old m distinct same
      refine ih _ _ (distinct.put e.1 e.2) fun name => ?_
      rw [Keyed.lookup_put, find?_insert, same]
  exact put [] empty List.Pairwise.nil fun _ => rfl

end NameMap

end HealthWatch
