import HealthWatch.Proofs.Derived.Restriction
import HealthWatch.Proofs.Skipping.Nested

/-!
# Periods multiply

A skipping check around a skipping check does what a single one does whose period is the product of
theirs, and so does a roster that is derived twice by skip counts. `nested_skips_multiply` says so
of every history of one check, among whatever else, and of every history of serial rounds: what
differs are the cells of the skipping checks alone.
-/

namespace HealthWatch

variable {a b : Nat}

/-! ### Checks wrapped twice -/

def skipsOf (skips : NameMap UInt32) (name : String) : Nat :=
  ((skips.find? name).map UInt32.toNat).getD 0

/-- The check inside a skipping one, if there is anything to skip. -/
def Probe.wrap (key : Cell.Key) (skips : Nat) (p : Probe) : Probe :=
  if 0 < skips then .skip key skips p else p

theorem Roster.entries_withSkips (r : Roster) (series : Nat) (skips : NameMap UInt32) :
    (r.withSkips series skips).checks.entries =
      r.checks.entries.map fun e => (e.1, e.2.wrap ⟨series, e.1⟩ (skipsOf skips e.1)) := by
  refine List.map_congr_left fun e _ => congrArg (Prod.mk e.1) ?_
  cases found : skips.find? e.1 with
  | none => simp [skipsOf, found, Probe.wrap]
  | some count => simp [skipsOf, found, Probe.wrap, UInt32.lt_iff_toNat_lt]

/-- A wrapped check has no new cell but that of its own name. -/
theorem Probe.cell_notMem_wrap {key other : Cell.Key} {skips : Nat} {p : Probe}
    (elsewhere : key.name ≠ other.name) (outside : .cell key ∉ p.places) :
    .cell key ∉ (p.wrap other skips).places := by
  unfold wrap
  split
  · intro inside
    rcases List.mem_cons.mp inside with same | inside
    · exact elsewhere (congrArg Cell.Key.name (Place.cell.inj same))
    · exact outside inside
  · exact outside

theorem Probe.cell_settled_wrap {key other : Cell.Key} {p : Probe}
    (elsewhere : key.name ≠ other.name) (outside : .cell key ∉ p.places) (skips : Nat) (w : World) :
    ((p.wrap other skips).settled w).cell key = w.cell key :=
  Sum.inr.inj (read_settled (cell_notMem_wrap elsewhere outside) w)

/-- What the cells of two skipping checks and of a single one have to do with each other, also if
one of the two has nothing to skip. -/
structure Bond (a b : Nat) (outer inner single : Cell.Key) (w w' : World) : Prop where
  both : 0 < a → 0 < b → ∃ n, InStep b n (w.cell outer) (w.cell inner) (w'.cell single)
  first : b = 0 → w.cell inner = w'.cell single
  second : a = 0 → w.cell outer = w'.cell single

section Wrapped

variable {hidden : Cell.Key → Bool} {outer inner single : Cell.Key} {c : Probe} {w w' u u' : World}

theorem Bond.congr (bond : Bond a b outer inner single u u') (first : w.cell outer = u.cell outer)
    (second : w.cell inner = u.cell inner) (alone : w'.cell single = u'.cell single) :
    Bond a b outer inner single w w' := by
  obtain ⟨both, only, other⟩ := bond
  exact ⟨by rwa [first, second, alone], by rwa [second, alone], by rwa [first, alone]⟩

theorem Bond.fresh (fresh : ∀ key ∈ [outer, inner, single], w.cell key = .fresh) :
    Bond a b outer inner single w w := by
  simp only [List.forall_mem_cons] at fresh
  obtain ⟨first, second, alone, -⟩ := fresh
  refine ⟨fun _ _ => ⟨0, ?_⟩, fun _ => second.trans alone.symm, fun _ => first.trans alone.symm⟩
  rw [first, second, alone]
  exact InStep.fresh b

theorem behind_bond (covered : ∀ key ∈ [outer, inner, single], hidden key = true) (a b : Nat) :
    Behind hidden (Bond a b outer inner single) := by
  simp only [List.forall_mem_cons] at covered
  obtain ⟨covers, coversInner, coversSingle, -⟩ := covered
  intro u v w w' same same' bond
  exact bond.congr (same outer covers) (same inner coversInner) (same' single coversSingle)

/-- Twins stay twins when more is said of what is behind the veil. -/
theorem Probe.Twins.weaken {ι : Type} [Inhabited ι] {p q : Probe}
    {kept later : World → World → Prop} {each eachLater : ι → World → World → Prop}
    (twins : ∀ i, p.Twins hidden (each i) (eachLater i) q)
    (before : ∀ {w w' : World}, kept w w' → ∃ i, each i w w')
    (after : ∀ {w w' : World} (i : ι), eachLater i w w' → later w w') :
    p.Twins hidden kept later q where
  reply := (twins default).reply
  isActive := (twins default).isActive
  begin := fun alike same =>
    have ⟨i, held⟩ := before same
    (twins i).begin alike held
  settled := fun alike same ends =>
    have ⟨i, held⟩ := before same
    after i ((twins i).settled alike held ends)

theorem Probe.twins_wrap (different : outer ≠ inner)
    (covered : ∀ key ∈ [outer, inner, single], hidden key = true) (clear : c.Clear (hidden ·))
    (guarded : c.Guarded) {m : Nat} (product : m + 1 = (a + 1) * (b + 1)) :
    ((c.wrap inner a).wrap outer b).Twins hidden (Bond a b outer inner single)
      (Bond a b outer inner single) (c.wrap single m) := by
  have covers : hidden outer = true := covered outer (by simp)
  have coversInner : hidden inner = true := covered inner (by simp)
  have coversSingle : hidden single = true := covered single (by simp)
  rcases Nat.eq_zero_or_pos a with rfl | some
  · obtain rfl : m = b := by omega
    rcases Nat.eq_zero_or_pos m with rfl | more
    · exact twins_clear (behind_bond covered 0 0) clear
    · simp only [wrap, Nat.lt_irrefl, if_false, if_pos more]
      refine Twins.weaken (ι := Unit) (fun _ => twins_skip covers coversSingle clear guarded m)
        (fun bond => ⟨(), bond.second rfl⟩) fun _ same => ?_
      exact ⟨fun none => absurd none (Nat.lt_irrefl 0), fun none => by omega, fun _ => same⟩
  · rcases Nat.eq_zero_or_pos b with rfl | more
    · obtain rfl : m = a := by omega
      simp only [wrap, Nat.lt_irrefl, if_false, if_pos some]
      refine Twins.weaken (ι := Unit) (fun _ => twins_skip coversInner coversSingle clear guarded m)
        (fun bond => ⟨(), bond.first rfl⟩) fun _ same => ?_
      exact ⟨fun _ none => absurd none (Nat.lt_irrefl 0), fun _ => same, fun none => by omega⟩
    · obtain rfl : m = skipsWithin a b :=
        Nat.succ_injective (product.trans (skipsWithin_add_one a b).symm)
      have positive : 0 < skipsWithin a b := by
        have larger : a + 1 ≤ (a + 1) * (b + 1) := Nat.le_mul_of_pos_right _ (Nat.succ_pos b)
        omega
      simp only [wrap, if_pos some, if_pos more, if_pos positive]
      refine Twins.weaken (ι := Nat) (twins_nested different covered clear guarded a b)
        (fun bond => bond.both some more) fun n step => ?_
      exact ⟨fun _ _ => ⟨n + 1, step⟩, fun none => by omega, fun none => by omega⟩

end Wrapped

/-! ### Rosters derived twice -/

/-- Rounds are serial, whatever happens elsewhere. -/
def Turn.Serial : Turn → Prop
  | own e => e.Serial
  | elsewhere _ => True

def ofSeries (numbers : List Nat) (key : Cell.Key) : Bool :=
  numbers.contains key.series

section Rosters

variable {one two three : Nat} {r : Roster} {first second product : NameMap UInt32}

/-- What the cells of rosters derived twice and once have to do with each other, name by name. -/
def Bonds (first second : NameMap UInt32) (one two three : Nat) (w w' : World) : Prop :=
  ∀ name, Bond (skipsOf first name) (skipsOf second name) ⟨two, name⟩ ⟨one, name⟩ ⟨three, name⟩ w w'

theorem covered_ofSeries (name : String) :
    ∀ key ∈ [(⟨two, name⟩ : Cell.Key), ⟨one, name⟩, ⟨three, name⟩],
      ofSeries [one, two, three] key = true := by
  simp [ofSeries]

theorem clear_of_avoids {p : Probe} {numbers : List Nat}
    (avoids : ∀ series ∈ numbers, p.Avoids series) : p.Clear (ofSeries numbers ·) :=
  fun key inside covered => avoids key.series (by simpa [ofSeries] using covered) key.name inside

theorem behind_bonds : Behind (ofSeries [one, two, three]) (Bonds first second one two three) :=
  fun same same' bonds name => behind_bond (covered_ofSeries name) _ _ same same' (bonds name)

/-- Under each name the roster that is derived twice has a twin of what the other one has. -/
theorem twinChecks_withSkips (different : one ≠ two)
    (periods : ∀ name ∈ r.names,
      skipsOf product name + 1 = (skipsOf first name + 1) * (skipsOf second name + 1))
    (guarded : ∀ e ∈ r.checks.entries, e.2.Guarded)
    (avoids : ∀ series ∈ [one, two, three], ∀ e ∈ r.checks.entries, e.2.Avoids series) :
    TwinChecks (ofSeries [one, two, three]) (Bonds first second one two three)
      ((r.withSkips one first).withSkips two second).checks.entries
      (r.withSkips three product).checks.entries := by
  rw [Roster.entries_withSkips, Roster.entries_withSkips, Roster.entries_withSkips, TwinChecks,
    List.map_map, List.forall₂_map_left_iff, List.forall₂_map_right_iff, List.forall₂_same]
  intro e member
  have clear : e.2.Clear (ofSeries [one, two, three] ·) :=
    clear_of_avoids fun series listed => avoids series listed e member
  have apart : (⟨two, e.1⟩ : Cell.Key) ≠ ⟨one, e.1⟩ :=
    fun same => different (congrArg Cell.Key.series same).symm
  have own := Probe.twins_wrap apart (covered_ofSeries e.1) clear (guarded e member)
    (periods e.1 (List.mem_map_of_mem member))
  have outside : ∀ series ∈ [one, two, three], ∀ name, .cell ⟨series, name⟩ ∉ e.2.places :=
    fun series listed name => avoids series listed e member name
  refine ⟨rfl, own.reply, own.isActive, fun alike bonds => own.begin alike (bonds e.1), ?_⟩
  intro w w' alike bonds ends name
  by_cases same : name = e.1
  · subst same
    exact own.settled alike (bonds e.1) ends
  · -- The cells of another name are none of these checks' business.
    have inside : ∀ series ∈ [one, two, three],
        .cell ⟨series, name⟩ ∉ (e.2.wrap ⟨one, e.1⟩ (skipsOf first e.1)).places :=
      fun series listed => Probe.cell_notMem_wrap same (outside series listed name)
    exact (bonds name).congr (Probe.cell_settled_wrap same (inside two (by simp)) _ w)
      (Probe.cell_settled_wrap same (inside one (by simp)) _ w)
      (Probe.cell_settled_wrap same (outside three (by simp) name) _ w')

theorem Session.Paired.play?_turns {hidden : Cell.Key → Bool} {kept : World → World → Prop}
    {r r' : Roster} (behind : Behind hidden kept)
    (twins : TwinChecks hidden kept r.checks.entries r'.checks.entries) {turns : List Turn}
    (serial : ∀ turn ∈ turns, turn.Serial)
    (elsewhere : ∀ m, .elsewhere m ∈ turns → ∀ p ∈ m.checks, p.Clear (hidden ·)) {s t : Session}
    (paired : s.Paired hidden kept t) :
    EndAlike hidden kept (s.play? (turns.map (Turn.move r)))
      (t.play? (turns.map (Turn.move r'))) := by
  induction turns generalizing s t with
  | nil => exact .some ⟨paired, rfl⟩
  | cons turn rest ih =>
    obtain ⟨first, later⟩ := List.forall_mem_cons.mp serial
    have foreign : ∀ m, .elsewhere m ∈ rest → ∀ p ∈ m.checks, p.Clear (hidden ·) :=
      fun m member => elsewhere m (List.mem_cons_of_mem _ member)
    rw [List.map_cons, List.map_cons]
    have moved : EndAlike hidden kept (s.move? (turn.move r)) (t.move? (turn.move r')) := by
      cases turn with
      | own e => exact paired.evaluate? behind twins first
      | elsewhere m => exact paired.move? behind (elsewhere m List.mem_cons_self)
    exact moved.play?_cons fun next => ih later foreign next

end Rosters

/-- Two skipping checks, one around the other, skip as one whose period is the product of theirs:

* a history of one check, which goes through the protection and has none of the cells, and whatever
  else has nothing to do with the cells, tells the two from the one in nothing but these cells; each
  calls the check inside when its evaluations are a multiple of the product; and if the check inside
  always ends, so does every evaluation;
* a history of serial rounds of a roster that is derived twice by skip counts differs from that of
  the roster derived once, by the products, in nothing but the cells of the three series. -/
theorem nested_skips_multiply :
    (∀ (outer inner single : Cell.Key) (a b : Nat) (c : Probe) (s : Session) (asks : List Ask),
      outer ≠ inner → c.Guarded →
      (∀ key ∈ [outer, inner, single], .cell key ∉ c.places ∧ s.world.cell key = .fresh ∧
        s.Spares (.cell key) ∧ ∀ ask ∈ asks, ask.Leaves key) →
      SamePeriod [outer, inner, single].contains c ((a + 1) * (b + 1))
        (.skip outer b (.skip inner a c)) (.skip single ((a + 1) * (b + 1) - 1) c) s asks) ∧
    ∀ (r : Roster) (one two three : Nat) (first second product : NameMap UInt32) (s : Session)
      (turns : List Turn),
      one ≠ two →
      (∀ name ∈ r.names,
        skipsOf product name + 1 = (skipsOf first name + 1) * (skipsOf second name + 1)) →
      (∀ e ∈ r.checks.entries, e.2.Guarded) →
      (∀ series ∈ [one, two, three], (∀ e ∈ r.checks.entries, e.2.Avoids series) ∧
        s.Unused series ∧ ∀ turn ∈ turns, turn.Avoids series) →
      (∀ turn ∈ turns, turn.Serial) →
      (s.play? (turns.map (Turn.move ((r.withSkips one first).withSkips two second)))).map
          (fun a => (a.1.veil (ofSeries [one, two, three]), a.2)) =
        (s.play? (turns.map (Turn.move (r.withSkips three product)))).map
          fun a => (a.1.veil (ofSeries [one, two, three]), a.2) := by
  constructor
  · intro outer inner single a b c s asks different guarded free
    have covered : ∀ key ∈ [outer, inner, single], [outer, inner, single].contains key = true :=
      fun key listed => List.contains_iff_mem.mpr listed
    have listed : ∀ key, [outer, inner, single].contains key = true →
        key ∈ [outer, inner, single] := fun key covered => List.contains_iff_mem.mp covered
    refine samePeriod_nested different covered
      (fun key inside covers => (free key (listed key covers)).1 inside) guarded
      (fun m member p ours key inside covers =>
        (free key (listed key covers)).2.2.2 _ member p ours inside) ⟨rfl, ?_, ?_⟩ a
    · rw [(free outer (by simp)).2.1, (free inner (by simp)).2.1, (free single (by simp)).2.1]
      exact InStep.fresh b
    · intro key covers
      have spares := (free key (listed key covers)).2.2.1
      exact ⟨spares, spares⟩
  · intro r one two three first second product s turns different periods guarded free serial
    have twins := twinChecks_withSkips different periods guarded fun series listed =>
      (free series listed).1
    have paired : s.Paired (ofSeries [one, two, three]) (Bonds first second one two three) s := by
      refine ⟨rfl, fun name => Bond.fresh ?_, fun key covers => ?_⟩
      · simp only [List.forall_mem_cons]
        exact ⟨(free two (by simp)).2.1.fresh name, (free one (by simp)).2.1.fresh name,
          (free three (by simp)).2.1.fresh name, List.forall_mem_nil _⟩
      · have spares := (free key.series (by simpa [ofSeries] using covers)).2.1.spares key.name
        exact ⟨spares, spares⟩
    refine (paired.play?_turns behind_bonds twins serial fun m member p ours => ?_).veiled
    exact clear_of_avoids fun series listed => (free series listed).2.2 _ member p ours

open Roster (database shared)

/-- Six evaluations, and the database is asked directly among them. -/
def evaluations : List Ask :=
  [.own, .own, .own, .elsewhere (.safeCheck database), .own, .own, .own]

def serialRounds : List Turn :=
  [.own .run, .own (.runOne "db"), .elsewhere (.evaluate shared .run), .own .run]

theorem forall_shared {P : String × Probe → Prop} (first : P ("db", database))
    (second : P ("log", .leaf (.ofList "log" [.finish 0 (.verdict .healthy)] true))) :
    ∀ e ∈ shared.checks.entries, P e := by
  intro e member
  rcases member with _ | ⟨_, _ | ⟨_, none⟩⟩
  · exact first
  · exact second
  · cases none

/-- Every second and, of these, every third evaluation is one in six, and the seventh calls again.
-/
theorem nested_skips_multiply_database :
    (∃ t u answers,
      Session.fresh.play? (evaluations.map (Ask.move
        (.skip ⟨1, "db"⟩ 2 (.skip ⟨2, "db"⟩ 1 database)))) = some (t, answers) ∧
      Session.fresh.play? (evaluations.map (Ask.move (.skip ⟨3, "db"⟩ 5 database))) =
        some (u, answers) ∧
      t.world.tally "db" = ⟨2, 2⟩ ∧
      (∃ w, (Probe.skip ⟨1, "db"⟩ 2 (.skip ⟨2, "db"⟩ 1 database)).Enters t.world database w) ∧
      ∃ w, (Probe.skip ⟨3, "db"⟩ 5 database).Enters u.world database w) ∧
    (Session.fresh.play? (serialRounds.map (Turn.move ((shared.withSkips 1
        (.ofList [("db", 1)])).withSkips 2 (.ofList [("db", 2), ("log", 3)]))))).map
        (fun a => (a.1.veil (ofSeries [1, 2, 3]), a.2)) =
      (Session.fresh.play? (serialRounds.map (Turn.move (shared.withSkips 3
        (.ofList [("db", 5), ("log", 3)]))))).map
        fun a => (a.1.veil (ofSeries [1, 2, 3]), a.2) := by
  obtain ⟨checks, rosters⟩ := nested_skips_multiply
  have free : ∀ key ∈ [(⟨1, "db"⟩ : Cell.Key), ⟨2, "db"⟩, ⟨3, "db"⟩],
      .cell key ∉ database.places ∧ Session.fresh.world.cell key = .fresh ∧
        Session.fresh.Spares (.cell key) ∧ ∀ ask ∈ evaluations, ask.Leaves key := by
    intro key _
    refine ⟨by simp [database, Probe.places], rfl, (Session.unused_fresh _).spares _, ?_⟩
    simp [evaluations, Ask.Leaves, Move.checks, database, Probe.places]
  have same := checks ⟨1, "db"⟩ ⟨2, "db"⟩ ⟨3, "db"⟩ 1 2 database .fresh evaluations (by decide)
    (fun _ => rfl) free
  have calls := same.calls _ _ _ rfl rfl
  have avoids : ∀ e ∈ shared.checks.entries, ∀ series, e.2.Avoids series :=
    forall_shared (by simp [database, Probe.Avoids, Probe.places])
      (by simp [Probe.Avoids, Probe.places])
  refine ⟨⟨_, _, _, rfl, rfl, rfl, calls.1.mpr rfl, calls.2.mpr rfl⟩, ?_⟩
  refine rosters shared 1 2 3 (.ofList [("db", 1)]) (.ofList [("db", 2), ("log", 3)])
    (.ofList [("db", 5), ("log", 3)]) .fresh serialRounds (by decide) ?_ ?_ ?_ ?_
  · decide +kernel
  · exact forall_shared (fun _ => rfl) (fun _ => rfl)
  · refine fun series _ => ⟨fun e member => avoids e member series, Session.unused_fresh series, ?_⟩
    intro turn member
    simp only [serialRounds, List.mem_cons, List.not_mem_nil, or_false] at member
    rcases member with rfl | rfl | rfl | rfl
    · trivial
    · trivial
    · intro p ours
      obtain ⟨e, inside, rfl⟩ := List.mem_map.mp ours
      exact avoids e inside series
    · trivial
  · simp [serialRounds, Turn.Serial, Evaluation.Serial]

end HealthWatch
