import HealthWatch.Proofs.Settings.Saving

/-!
# Partial documents of settings

A stored form need not be complete, and its members may stand in any order among others that mean
nothing. `setMembers?_telling` carries the reading through: each member that is known sets its own
setting, so what has been read is what `takeFrom` takes over. `documents_partial` says which
settings a document gives, and that a known member must not be repeated while a skip count may be.
-/

namespace HealthWatch

namespace Settings

variable {s t : Settings} {members : List (String × Json)} {chosen chosen' : String → Bool}

/-! ### Settings taken over -/

/-- The settings with those chosen, by the names of their members, taken from others. -/
def takeFrom (s t : Settings) (chosen : String → Bool) : Settings where
  initialDelay := if chosen "initial_delay_ms" then t.initialDelay else s.initialDelay
  period := if chosen "period_ms" then t.period else s.period
  poolSize := if chosen "pool_size" then t.poolSize else s.poolSize
  timeout := if chosen "timeout_ms" then t.timeout else s.timeout
  allowlist := if chosen "checks" then t.allowlist else s.allowlist
  skips := if chosen "skips" then t.skips else s.skips

theorem takeFrom_congr (same : ∀ name ∈ memberNames, chosen name = chosen' name) :
    s.takeFrom t chosen = s.takeFrom t chosen' := by
  simp only [memberNames, List.forall_mem_cons] at same
  obtain ⟨h₁, h₂, h₃, h₄, h₅, h₆, -⟩ := same
  simp only [takeFrom, h₁, h₂, h₃, h₄, h₅, h₆]

theorem takeFrom_nothing (nothing : ∀ name ∈ memberNames, chosen name = false) :
    s.takeFrom t chosen = s := by
  have same : s.takeFrom t chosen = s.takeFrom t fun _ => false := takeFrom_congr nothing
  exact same

theorem takeFrom_takeFrom : (s.takeFrom t chosen).takeFrom t chosen' =
    s.takeFrom t fun name => chosen name || chosen' name := by
  have twice : ∀ {α : Type} (a b : Bool) (new old : α),
      (if b then new else if a then new else old) = if (a || b) then new else old := by
    intro α a b new old
    cases a <;> cases b <;> rfl
  simp only [takeFrom, twice]

theorem takeFrom_swap : s.takeFrom t chosen = t.takeFrom s fun name => !chosen name := by
  have other : ∀ {α : Type} (a : Bool) (new old : α),
      (if a then new else old) = if !a then old else new := by
    intro α a new old
    cases a <;> rfl
  exact Settings.ext (other ..) (other ..) (other ..) (other ..) (other ..) (other ..)

/-! ### Reading members -/

/-- A member sets its own setting to what it is in `t`. -/
def Tells (t : Settings) (m : String × Json) : Prop :=
  ∀ s : Settings, s.setMember? m.1 m.2 = some (s.takeFrom t (· == m.1))

def knownNames (members : List (String × Json)) : List String :=
  (members.map (·.1)).filter memberNames.contains

/-- Members that are told once each are all taken over. -/
theorem setMembers?_telling (telling : ∀ m ∈ members, m.1 ∈ memberNames → Tells t m)
    (once : (knownNames members).Nodup) {seen : List String}
    (new : ∀ name ∈ knownNames members, name ∉ seen) :
    s.setMembers? seen members = some (s.takeFrom t fun name => (members.map (·.1)).contains name) := by
  induction members generalizing s seen with
  | nil => rfl
  | cons m rest ih =>
    obtain ⟨name, j⟩ := m
    obtain ⟨tells, telling⟩ := List.forall_mem_cons.mp telling
    rw [setMembers?]
    by_cases known : name ∈ memberNames
    · have listed : knownNames ((name, j) :: rest) = name :: knownNames rest := by
        simp [knownNames, known]
      rw [listed] at once new
      obtain ⟨single, once⟩ := List.nodup_cons.mp once
      obtain ⟨unseen, new⟩ := List.forall_mem_cons.mp new
      have newer : ∀ other ∈ knownNames rest, other ∉ name :: seen := by
        intro other member
        rw [List.mem_cons]
        rintro (rfl | old)
        · exact single member
        · exact new other member old
      rw [if_pos (by simpa using known), if_neg (by simpa using unseen), tells known s]
      simp only [Option.bind_eq_bind, Option.bind_some]
      rw [ih telling once newer, takeFrom_takeFrom]
      simp
    · have listed : knownNames ((name, j) :: rest) = knownNames rest := by
        simp [knownNames, known]
      rw [listed] at once new
      rw [if_neg (by simpa using known), ih telling once new]
      refine congrArg some (takeFrom_congr fun other member => ?_)
      have different : other ≠ name := fun same => known (same ▸ member)
      simp [different]

/-- A known member is refused when it has been read before. -/
theorem setMembers?_of_seen {name : String} (known : name ∈ memberNames) {seen : List String}
    (old : name ∈ seen) (again : name ∈ members.map (·.1)) : s.setMembers? seen members = none := by
  induction members generalizing s seen with
  | nil => cases again
  | cons m rest ih =>
    obtain ⟨other, j⟩ := m
    rw [setMembers?]
    rcases List.mem_cons.mp again with rfl | later
    · rw [if_pos (by simpa using known), if_pos (by simpa using old)]
    · split
      · split
        · rfl
        · cases s.setMember? other j with
          | none => rfl
          | some next => exact ih (List.mem_cons_of_mem _ old) later
      · exact ih old later

theorem setMembers?_repeated {name : String} (known : name ∈ memberNames) {seen : List String}
    (twice : 2 ≤ (members.map (·.1)).count name) : s.setMembers? seen members = none := by
  induction members generalizing s seen with
  | nil => simp at twice
  | cons m rest ih =>
    obtain ⟨other, j⟩ := m
    rw [List.map_cons, List.count_cons] at twice
    rw [setMembers?]
    by_cases same : other = name
    · subst same
      have later : other ∈ rest.map (·.1) := List.count_pos_iff.mp (by simpa using twice)
      rw [if_pos (by simpa using known)]
      split
      · rfl
      · cases s.setMember? other j with
        | none => rfl
        | some next => exact setMembers?_of_seen known List.mem_cons_self later
    · have twice : 2 ≤ (rest.map (·.1)).count name := by simpa [same] using twice
      split
      · split
        · rfl
        · cases s.setMember? other j with
          | none => rfl
          | some next => exact ih twice
      · exact ih twice

/-! ### What the stored form tells -/

theorem word?_integer (n : UInt64) : word? (.integer n.toNat) = some n := by
  have bound := n.toNat_lt
  simp [word?, Json.toNat?]
  omega

theorem allowlist?_allowlistJson (allowlist : Option (List String)) :
    allowlist? (allowlistJson allowlist) = some allowlist := by
  cases allowlist with
  | none => rfl
  | some names =>
    have back : ∀ name, Json.toString? (.string name) = some name := fun _ => rfl
    exact congrArg (Option.map some) (mapM_map_of_back back names)

theorem skips?_countsJson (counts : List (String × UInt32)) :
    skips? (countsJson counts) = some (.ofList counts) := by
  have back : ∀ e : String × UInt32, skip? (e.1, .integer e.2.toNat) = some e := by
    intro e
    have bound := e.2.toNat_lt
    simp [skip?, Json.toNat?]
    omega
  exact congrArg (Option.map NameMap.ofList) (mapM_map_of_back back counts)

/-- The members of the stored form, with skip counts as they are listed. -/
def spelled (s : Settings) (counts : List (String × UInt32)) : List (String × Json) :=
  Keyed.put "skips" (countsJson counts) s.toJson.members

theorem names_spelled (s : Settings) (counts : List (String × UInt32)) :
    (s.spelled counts).map (·.1) = memberNames := rfl

theorem spelled_entries (s : Settings) : s.spelled s.skips.entries = s.toJson.members := rfl

theorem tells_spelled (s : Settings) (counts : List (String × UInt32)) :
    ∀ m ∈ s.spelled counts, Tells { s with skips := .ofList counts } m := by
  have listed : s.spelled counts = [
      ("initial_delay_ms", .integer s.initialDelay.toNat), ("period_ms", .integer s.period.toNat),
      ("pool_size", .integer s.poolSize.toNat), ("timeout_ms", .integer s.timeout.toNat),
      ("checks", allowlistJson s.allowlist), ("skips", countsJson counts)] := rfl
  simp only [listed, List.forall_mem_cons, Tells, setMember?, word?_integer,
    allowlist?_allowlistJson, skips?_countsJson, Option.map_some, takeFrom]
  simp

/-! ### Whole documents -/

variable {removed : String → Bool} {counts : List (String × UInt32)} {unknown : List (String × Json)}

theorem knownNames_mixed (foreign : ∀ m ∈ unknown, m.1 ∉ memberNames)
    (mixed : members.Perm (((s.spelled counts).filter fun m => !removed m.1) ++ unknown)) :
    (knownNames members).Perm (memberNames.filter fun name => !removed name) := by
  have kept : ((s.spelled counts).filter fun m => !removed m.1).map (·.1) =
      memberNames.filter fun name => !removed name := by
    rw [← s.names_spelled counts, List.filter_map]
    rfl
  have none : (unknown.map (·.1)).filter memberNames.contains = [] := by
    refine List.filter_eq_nil_iff.mpr (List.forall_mem_map.mpr fun m member => ?_)
    simpa using foreign m member
  have all : (memberNames.filter fun name => !removed name).filter memberNames.contains =
      memberNames.filter fun name => !removed name := by
    refine List.filter_eq_self.mpr fun name member => ?_
    simpa using (List.mem_filter.mp member).1
  have same := (mixed.map (·.1)).filter memberNames.contains
  rwa [List.map_append, List.filter_append, kept, none, all, List.append_nil] at same

/-- A document gives what it spells, and the defaults for the members that are missing. -/
theorem ofJson?_spelled (foreign : ∀ m ∈ unknown, m.1 ∉ memberNames)
    (mixed : members.Perm (((s.spelled counts).filter fun m => !removed m.1) ++ unknown)) :
    ofJson? (.object members) =
      some ({ s with skips := .ofList counts }.takeFrom default removed) := by
  have known := knownNames_mixed foreign mixed
  have distinct : memberNames.Nodup := by decide
  have once : (knownNames members).Nodup := known.nodup_iff.mpr (distinct.filter _)
  have telling : ∀ m ∈ members, m.1 ∈ memberNames → Tells { s with skips := .ofList counts } m := by
    intro m member named
    rcases List.mem_append.mp (mixed.mem_iff.mp member) with kept | other
    · exact s.tells_spelled counts m (List.mem_filter.mp kept).1
    · exact absurd named (foreign m other)
  rw [ofJson?, setMembers?_telling telling once (by simp), takeFrom_swap]
  refine congrArg some (takeFrom_congr fun name member => ?_)
  have present : name ∈ members.map (·.1) ↔ removed name = false := by
    have found := known.mem_iff (a := name)
    simpa [knownNames, member] using found
  cases gone : removed name <;> simp [present, gone]

/-- A document of settings may leave out members, which then have their defaults, and may list the
others in any order among unknown ones. Of the names in it only those of the settings must not be
repeated; of a name that is repeated among the skips the last count stays. -/
theorem documents_partial (s : Settings) (removed : String → Bool)
    {unknown : List (String × Json)} (foreign : ∀ m ∈ unknown, m.1 ∉ memberNames) :
    (∀ members, members.Perm ((s.toJson.members.filter fun m => !removed m.1) ++ unknown) →
      ofJson? (.object members) = some (s.takeFrom default removed) ∧
      ((∀ m ∈ unknown, m.2.isExact = true) →
        ofText? (Json.render (.object members)) = some (s.takeFrom default removed))) ∧
    ((∀ name ∈ memberNames, removed name = false) → s.takeFrom default removed = s) ∧
    (∀ members, ∀ name ∈ memberNames, 2 ≤ (members.map (·.1)).count name →
      ofJson? (.object members) = none) ∧
    ∀ counts members, removed "skips" = false →
      members.Perm (((s.spelled counts).filter fun m => !removed m.1) ++ unknown) →
      ∃ skips : NameMap UInt32,
        ofJson? (.object members) = some { s.takeFrom default removed with skips } ∧
        ∀ name, skips.find? name = counts.reverse.lookup name := by
  refine ⟨fun members mixed => ?partly, takeFrom_nothing, ?repeated, ?counts⟩
  case partly =>
    have whole : { s with skips := .ofList s.skips.entries } = s :=
      Settings.ext rfl rfl rfl rfl rfl (NameMap.ext (NameMap.entries_ofList s.skips.ascending))
    have read := ofJson?_spelled foreign (s.spelled_entries ▸ mixed)
    rw [whole] at read
    refine ⟨read, fun exactly => ?_⟩
    have stored := Json.membersExact_iff.mp s.plain_toJson.exactly
    have exact : (Json.object members).isExact = true := by
      refine Json.membersExact_iff.mpr fun m member => ?_
      rcases List.mem_append.mp (mixed.mem_iff.mp member) with kept | other
      · exact stored m (List.mem_filter.mp kept).1
      · exact exactly m other
    rw [ofText?, Json.parse_render exact, Option.bind_some, read]
  case repeated => exact fun members name known twice => setMembers?_repeated known twice
  case counts =>
    intro counts members kept mixed
    refine ⟨.ofList counts, ?_, NameMap.find?_ofList_last counts⟩
    rw [ofJson?_spelled foreign mixed]
    simp [takeFrom, kept]

/-- A document without two of the members, in reverse order after unknown ones. With another member
of a name in it, it is refused; with another count of a skip it gives that one. -/
theorem documents_partial_reversed :
    let s := ((default.withPeriod ⟨5, 0⟩).withAllowlist ["db"]).withSkip "disk" 4
    let removed := fun name => name == "period_ms" || name == "checks"
    let unknown := [("Period_ms", .integer (-1)), ("note", .unreadable), ("note", .null)]
    let members := ((s.toJson.members.filter fun m => !removed m.1) ++ unknown).reverse
    let recounted := ((s.spelled [("disk", 4), ("disk", 1)]).filter fun m => !removed m.1) ++ unknown
    (∀ m ∈ unknown, m.1 ∉ memberNames) ∧
      ofJson? (.object members) = some (default.withSkip "disk" 4) ∧
      ofJson? (.object (("skips", .null) :: members)) = none ∧
      ∃ skips : NameMap UInt32,
        ofJson? (.object recounted) = some { default with skips } ∧ skips.find? "disk" = some 1 := by
  intro s removed unknown members recounted
  have foreign : ∀ m ∈ unknown, m.1 ∉ memberNames := by decide
  obtain ⟨partly, -, repeated, counts⟩ := documents_partial s removed foreign
  obtain ⟨skips, read, last⟩ := counts [("disk", 4), ("disk", 1)] recounted rfl (List.Perm.refl _)
  refine ⟨foreign, (partly members (List.reverse_perm _)).1, ?_, skips, read, last "disk"⟩
  exact repeated _ "skips" (by decide) (by decide)

end Settings

end HealthWatch
