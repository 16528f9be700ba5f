import HealthWatch.Proofs.Skipping.Schedule
import HealthWatch.Proofs.Skipping.Twins

/-!
# Skipping checks inside skipping checks

Two skipping checks, one around the other, keep two counts and two verdicts. `InStep` says how these
go with the count and the verdict of a single one whose period is the product of theirs. Every
evaluation keeps them in step (`Probe.twins_nested`), so no history of one check tells the two from
the one (`samePeriod_nested`).
-/

namespace HealthWatch

/-- To skip `a` invocations of those that come through when `b` are skipped. -/
def skipsWithin (a b : Nat) : Nat :=
  (a + 1) * (b + 1) - 1

theorem skipsWithin_add_one (a b : Nat) : skipsWithin a b + 1 = (a + 1) * (b + 1) :=
  Nat.sub_add_cancel (Nat.mul_pos (Nat.succ_pos a) (Nat.succ_pos b))

variable {a b n : Nat}

theorem mod_product_of_skipped (skipped : n % (b + 1) ≠ 0) : n % ((a + 1) * (b + 1)) ≠ 0 := by
  intro due
  have divides : b + 1 ∣ n := (Nat.dvd_mul_left ..).trans (Nat.dvd_of_mod_eq_zero due)
  exact skipped (Nat.mod_eq_zero_of_dvd divides)

theorem mod_product_of_due (due : n % (b + 1) = 0) :
    n % ((a + 1) * (b + 1)) = 0 ↔ n / (b + 1) % (a + 1) = 0 := by
  rw [Nat.mul_comm, Nat.mod_mul, due]
  simp

/-! ### Cells in step -/

/-- What the cells of two skipping checks hold, one around the other, and the cell of a single one
after as many invocations. The inner check is invoked in every `b + 1`-th of them. -/
structure InStep (b n : Nat) (outer inner single : Cell) : Prop where
  same : outer = single
  turns : single.turns = n
  within : inner = ⟨n ⌈/⌉ (b + 1), single.stored⟩
  filled : 0 < n → ∃ v, single.stored = some v

namespace InStep

variable {outer inner single : Cell} {v : Verdict}

theorem fresh (b : Nat) : InStep b 0 .fresh .fresh .fresh :=
  ⟨rfl, rfl, by simp [Cell.fresh], fun positive => absurd positive (Nat.lt_irrefl 0)⟩

variable (step : InStep b n outer inner single)

include step

theorem replay?_of_skipped (skipped : n % (b + 1) ≠ 0) :
    ∃ v, single.stored = some v ∧ outer.replay? b = some v ∧
      single.replay? (skipsWithin a b) = some v := by
  obtain ⟨rfl, rfl, -, filled⟩ := step
  have positive : 0 < outer.turns := Nat.pos_of_ne_zero fun zero => skipped (by simp [zero])
  obtain ⟨v, stored⟩ := filled positive
  refine ⟨v, stored, ?_, ?_⟩
  · rw [Cell.replay?, if_neg skipped, stored]
  · rw [Cell.replay?, skipsWithin_add_one, if_neg (mod_product_of_skipped skipped), stored]

theorem replay?_of_passed (due : n % (b + 1) = 0) (skipped : n / (b + 1) % (a + 1) ≠ 0) :
    ∃ v, single.stored = some v ∧ outer.replay? b = none ∧ inner.replay? a = some v ∧
      single.replay? (skipsWithin a b) = some v := by
  obtain ⟨rfl, rfl, rfl, filled⟩ := step
  have positive : 0 < outer.turns := Nat.pos_of_ne_zero fun zero => skipped (by simp [zero])
  obtain ⟨v, stored⟩ := filled positive
  refine ⟨v, stored, ?_, ?_, ?_⟩
  · rw [Cell.replay?, if_pos due]
  · rw [Cell.replay?, ceilDiv_of_mod_eq_zero due, if_neg skipped, stored]
  · rw [Cell.replay?, skipsWithin_add_one, if_neg ((mod_product_of_due due).not.mpr skipped), stored]

theorem replay?_of_due (due : n % ((a + 1) * (b + 1)) = 0) :
    outer.replay? b = none ∧ inner.replay? a = none ∧
      single.replay? (skipsWithin a b) = none := by
  obtain ⟨rfl, rfl, rfl, -⟩ := step
  have passed : outer.turns % (b + 1) = 0 :=
    not_not.mp fun skipped => mod_product_of_skipped skipped due
  refine ⟨?_, ?_, ?_⟩
  · rw [Cell.replay?, if_pos passed]
  · rw [Cell.replay?, ceilDiv_of_mod_eq_zero passed, if_pos ((mod_product_of_due passed).mp due)]
  · rw [Cell.replay?, skipsWithin_add_one, if_pos due]

theorem skip (skipped : n % (b + 1) ≠ 0) : InStep b (n + 1) outer.turn inner single.turn := by
  obtain ⟨rfl, rfl, rfl, filled⟩ := step
  have positive : 0 < outer.turns := Nat.pos_of_ne_zero fun zero => skipped (by simp [zero])
  refine ⟨rfl, rfl, ?_, fun _ => filled positive⟩
  rw [succ_ceilDiv, ceilDiv_of_mod_ne_zero skipped]
  rfl

theorem pass (due : n % (b + 1) = 0) (stored : single.stored = some v) :
    InStep b (n + 1) ⟨outer.turns + 1, some v⟩ inner.turn single.turn := by
  obtain ⟨rfl, rfl, rfl, -⟩ := step
  refine ⟨by rw [← stored]; rfl, rfl, ?_, fun _ => ⟨v, stored⟩⟩
  rw [succ_ceilDiv, ceilDiv_of_mod_eq_zero due]
  rfl

theorem call (due : n % (b + 1) = 0) (v : Verdict) :
    InStep b (n + 1) ⟨outer.turns + 1, some v⟩ ⟨inner.turns + 1, some v⟩
      ⟨single.turns + 1, some v⟩ := by
  obtain ⟨rfl, rfl, rfl, -⟩ := step
  refine ⟨rfl, rfl, ?_, fun _ => ⟨v, rfl⟩⟩
  rw [succ_ceilDiv, ceilDiv_of_mod_eq_zero due]

end InStep

/-! ### Evaluations behind the veil -/

theorem World.cell_turn_other {one two : Cell.Key} (different : one ≠ two) (w : World) :
    (w.turn one).cell two = w.cell two := by
  simp [turn, different.symm]

namespace Probe

variable {hidden : Cell.Key → Bool} {key : Cell.Key} {skips : Nat} {p c inner : Probe}
  {w w' : World} {v : Verdict}

theorem veil_begin_of_replay (covered : hidden key = true)
    (found : (w.cell key).replay? skips = some v) (inner : Probe) :
    ((skip key skips inner).begin w).1.veil hidden = w.veil hidden ∧
      ((skip key skips inner).begin w).2.veil hidden = .ends 0 [] (.verdict v) := by
  rw [begin_of_replay found]
  exact ⟨World.veil_turn covered, rfl⟩

theorem veil_begin_of_due (covered : hidden key = true) (guarded : inner.Guarded)
    (due : (w.cell key).replay? skips = none) :
    ((skip key skips inner).begin w).1.veil hidden = (inner.begin (w.turn key)).1.veil hidden ∧
      ((skip key skips inner).begin w).2.veil hidden =
        ((inner.begin (w.turn key)).2.veil hidden).caught := by
  rw [begin_of_due due]
  exact ⟨rfl, Course.veil_stored covered guarded _⟩

/-- In worlds that look alike, a check without hidden cells does the same. -/
theorem veil_begin_of_clear (clear : c.Clear (hidden ·)) (alike : w.veil hidden = w'.veil hidden) :
    (c.begin w).1.veil hidden = (c.begin w').1.veil hidden ∧ (c.begin w).2 = (c.begin w').2 := by
  have same := (begin_veil clear w).symm.trans ((congrArg c.begin alike).trans (begin_veil clear w'))
  obtain ⟨worlds, courses⟩ := Prod.mk.inj same
  rw [veil_course_of_clear clear, veil_course_of_clear clear] at courses
  exact ⟨worlds, courses⟩

theorem settled_of_replay (found : (w.cell key).replay? skips = some v) (inner : Probe) :
    (skip key skips inner).settled w = w.turn key := by
  rw [settled, begin_of_replay found]
  rfl

/-- The run of a skipping check leaves other cells to the check inside. -/
theorem cell_settled_inner {key' : Cell.Key} (different : key ≠ key')
    (due : (w.cell key).replay? skips = none) :
    ((skip key skips inner).settled w).cell key' = (inner.settled (w.turn key)).cell key' := by
  rw [settled, settled, begin_of_due due]
  cases (inner.begin (w.turn key)).2 with
  | never => rfl
  | ends after effects outcome =>
    simp only [Course.stored]
    split
    · simp [Course.effects, Effect.applyAll, Effect.apply, World.store, different.symm]
    · rfl

/-- A run that ends is the end of a run of the check inside. -/
theorem ends_of_due (due : (w.cell key).replay? skips = none)
    (ends : ((skip key skips inner).begin w).2 ≠ .never) :
    (inner.begin (w.turn key)).2 ≠ .never := by
  intro forever
  rw [begin_of_due due, forever] at ends
  exact ends rfl

end Probe

/-! ### Two skipping checks and one -/

namespace Probe

variable {hidden : Cell.Key → Bool} {outer inner single : Cell.Key} {c : Probe} {w w' : World}

/-! What one more evaluation leaves in the two cells: the outer check replays, or it passes the
evaluation on and the inner one replays, or the check inside is called. -/

section Cells

variable {v : Verdict} (different : outer ≠ inner)

include different

theorem cells_skipped (found : (w.cell outer).replay? b = some v) :
    ((skip outer b (skip inner a c)).settled w).cell outer = (w.cell outer).turn ∧
      ((skip outer b (skip inner a c)).settled w).cell inner = w.cell inner := by
  refine ⟨cell_settled_replay found _, ?_⟩
  rw [settled_of_replay found, World.cell_turn_other different]

theorem cells_passed (outside : .cell outer ∉ c.places) (due : (w.cell outer).replay? b = none)
    (found : (w.cell inner).replay? a = some v) :
    ((skip outer b (skip inner a c)).settled w).cell outer = ⟨(w.cell outer).turns + 1, some v⟩ ∧
      ((skip outer b (skip inner a c)).settled w).cell inner = (w.cell inner).turn := by
  have apart := World.cell_turn_other different w
  have course : ((skip inner a c).begin (w.turn outer)).2 = .ends 0 [] (.verdict v) := by
    rw [begin_of_replay (apart ▸ found)]
  constructor
  · exact cell_settled_due (by simpa [places, different] using outside) due course rfl
  · rw [cell_settled_inner different due, cell_settled_replay (apart ▸ found), apart]

theorem cells_called (outside : .cell outer ∉ c.places) (outside' : .cell inner ∉ c.places)
    (guarded : c.Guarded) (due : (w.cell outer).replay? b = none)
    (due' : (w.cell inner).replay? a = none) {after : Nat} {effects : List Effect}
    {outcome : Outcome}
    (course : (c.begin ((w.turn outer).turn inner)).2 = .ends after effects outcome) :
    ((skip outer b (skip inner a c)).settled w).cell outer =
        ⟨(w.cell outer).turns + 1, some outcome.caught⟩ ∧
      ((skip outer b (skip inner a c)).settled w).cell inner =
        ⟨(w.cell inner).turns + 1, some outcome.caught⟩ := by
  have apart := World.cell_turn_other different w
  have passed : ((skip inner a c).begin (w.turn outer)).2 =
      .ends after (effects ++ [.stored inner outcome.caught]) (.verdict outcome.caught) := by
    rw [begin_of_due (apart ▸ due'), course, Course.stored, guarded outcome]
  constructor
  · exact cell_settled_due (by simpa [places, different] using outside) due passed rfl
  · rw [cell_settled_inner different due,
      cell_settled_due outside' (apart ▸ due') course (guarded outcome), apart]

end Cells

section Nested

variable (different : outer ≠ inner) (covered : ∀ key ∈ [outer, inner, single], hidden key = true)
  (clear : c.Clear (hidden ·)) (guarded : c.Guarded) (alike : w.veil hidden = w'.veil hidden)
  (step : InStep b n (w.cell outer) (w.cell inner) (w'.cell single))

include different covered clear guarded alike step

theorem veil_begin_nested :
    ((skip outer b (skip inner a c)).begin w).1.veil hidden =
        ((skip single (skipsWithin a b) c).begin w').1.veil hidden ∧
      ((skip outer b (skip inner a c)).begin w).2.veil hidden =
        ((skip single (skipsWithin a b) c).begin w').2.veil hidden := by
  simp only [List.forall_mem_cons] at covered
  obtain ⟨covers, coversInner, coversSingle, -⟩ := covered
  have apart := World.cell_turn_other different w
  have turned : (w.turn outer).veil hidden = w'.veil hidden := (World.veil_turn covers).trans alike
  -- The outer check passes every `b + 1`-th evaluation on, the inner one every `a + 1`-th of these.
  by_cases passed : n % (b + 1) = 0
  · by_cases due : n / (b + 1) % (a + 1) = 0
    · obtain ⟨first, second, alone⟩ := step.replay?_of_due ((mod_product_of_due passed).mpr due)
      obtain ⟨world, course⟩ := veil_begin_of_due covers (guarded_skip inner a c) first
      obtain ⟨world', course'⟩ := veil_begin_of_due coversInner guarded (apart ▸ second)
      obtain ⟨world'', course''⟩ := veil_begin_of_due coversSingle guarded alone
      obtain ⟨worlds, courses⟩ :=
        veil_begin_of_clear clear (World.turn_alike coversInner coversSingle turned)
      refine ⟨world.trans (world'.trans (worlds.trans world''.symm)), ?_⟩
      rw [course, course', course'', courses, Course.caught_caught]
    · obtain ⟨v, -, first, found, alone⟩ := step.replay?_of_passed passed due
      obtain ⟨world, course⟩ := veil_begin_of_due covers (guarded_skip inner a c) first
      obtain ⟨world', course'⟩ := veil_begin_of_replay coversInner (apart ▸ found) c
      obtain ⟨world'', course''⟩ := veil_begin_of_replay coversSingle alone c
      refine ⟨world.trans (world'.trans (turned.trans world''.symm)), ?_⟩
      rw [course, course', course'']
      rfl
  · obtain ⟨v, -, found, alone⟩ := step.replay?_of_skipped (a := a) passed
    obtain ⟨world, course⟩ := veil_begin_of_replay covers found (skip inner a c)
    obtain ⟨world', course'⟩ := veil_begin_of_replay coversSingle alone c
    exact ⟨world.trans (alike.trans world'.symm), course.trans course'.symm⟩

theorem inStep_settled (ends : ((skip outer b (skip inner a c)).begin w).2 ≠ .never) :
    InStep b (n + 1) (((skip outer b (skip inner a c)).settled w).cell outer)
      (((skip outer b (skip inner a c)).settled w).cell inner)
      (((skip single (skipsWithin a b) c).settled w').cell single) := by
  simp only [List.forall_mem_cons] at covered
  obtain ⟨covers, coversInner, coversSingle, -⟩ := covered
  have outside : ∀ key, hidden key = true → .cell key ∉ c.places :=
    fun key covered member => clear key member covered
  by_cases passed : n % (b + 1) = 0
  · by_cases due : n / (b + 1) % (a + 1) = 0
    · obtain ⟨first, second, alone⟩ := step.replay?_of_due ((mod_product_of_due passed).mpr due)
      have turned := (World.veil_turn covers).trans alike
      have courses :=
        (veil_begin_of_clear clear (World.turn_alike coversInner coversSingle turned)).2
      have apart := World.cell_turn_other different w
      have running := ends_of_due (apart ▸ second) (ends_of_due first ends)
      cases course : (c.begin ((w.turn outer).turn inner)).2 with
      | never => exact absurd course running
      | ends after effects outcome =>
        obtain ⟨left, left'⟩ := cells_called different (outside outer covers)
          (outside inner coversInner) guarded first second course
        rw [left, left', cell_settled_due (outside single coversSingle) alone (courses ▸ course)
          (guarded outcome)]
        exact step.call passed outcome.caught
    · obtain ⟨v, stored, first, found, alone⟩ := step.replay?_of_passed passed due
      obtain ⟨left, left'⟩ := cells_passed different (outside outer covers) first found
      rw [left, left', cell_settled_replay alone]
      exact step.pass passed stored
  · obtain ⟨v, -, found, alone⟩ := step.replay?_of_skipped (a := a) passed
    obtain ⟨left, left'⟩ := cells_skipped different found
    rw [left, left', cell_settled_replay alone]
    exact step.skip passed

end Nested

/-- Two skipping checks, one around the other, do what a single one does. -/
theorem twins_nested (different : outer ≠ inner)
    (covered : ∀ key ∈ [outer, inner, single], hidden key = true) (clear : c.Clear (hidden ·))
    (guarded : c.Guarded) (a b n : Nat) :
    (skip outer b (skip inner a c)).Twins hidden
      (fun w w' => InStep b n (w.cell outer) (w.cell inner) (w'.cell single))
      (fun w w' => InStep b (n + 1) (w.cell outer) (w.cell inner) (w'.cell single))
      (skip single (skipsWithin a b) c) where
  reply := fun _ => rfl
  isActive := fun _ => rfl
  begin := veil_begin_nested different covered clear guarded
  settled := inStep_settled different covered clear guarded

/-- It does not matter which cell a skipping check has. -/
theorem twins_skip {one two : Cell.Key} (covered : hidden one = true) (covered' : hidden two = true)
    (clear : c.Clear (hidden ·)) (guarded : c.Guarded) (skips : Nat) :
    (skip one skips c).Twins hidden (fun w w' => w.cell one = w'.cell two)
      (fun w w' => w.cell one = w'.cell two) (skip two skips c) where
  reply := fun _ => rfl
  isActive := fun _ => rfl
  begin := by
    intro w w' alike same
    cases found : (w.cell one).replay? skips with
    | some v =>
      obtain ⟨world, course⟩ := veil_begin_of_replay covered found c
      obtain ⟨world', course'⟩ := veil_begin_of_replay covered' (same ▸ found) c
      exact ⟨world.trans (alike.trans world'.symm), course.trans course'.symm⟩
    | none =>
      obtain ⟨worlds, courses⟩ :=
        veil_begin_of_clear clear (World.turn_alike covered covered' alike)
      obtain ⟨world, course⟩ := veil_begin_of_due covered guarded found
      obtain ⟨world', course'⟩ := veil_begin_of_due covered' guarded (same ▸ found)
      exact ⟨world.trans (worlds.trans world'.symm), by rw [course, course', courses]⟩
  settled := by
    intro w w' alike same ends
    cases found : (w.cell one).replay? skips with
    | some v =>
      have found' : (w'.cell two).replay? skips = some v := same ▸ found
      rw [cell_settled_replay found, cell_settled_replay found', same]
    | none =>
      have found' : (w'.cell two).replay? skips = none := same ▸ found
      have courses := (veil_begin_of_clear clear (World.turn_alike covered covered' alike)).2
      have running := ends_of_due found ends
      cases course : (c.begin (w.turn one)).2 with
      | never => exact absurd course running
      | ends after effects outcome =>
        rw [cell_settled_due (fun member => clear one member covered) found course
            (guarded outcome),
          cell_settled_due (fun member => clear two member covered') found' (courses ▸ course)
            (guarded outcome), same]

/-- A check without hidden cells is its own twin, whatever is kept behind the veil. -/
theorem twins_clear {kept : World → World → Prop} (behind : Behind hidden kept)
    (clear : c.Clear (hidden ·)) : c.Twins hidden kept kept c where
  reply := fun _ => rfl
  isActive := fun _ => rfl
  begin := by
    intro w w' alike _
    obtain ⟨worlds, courses⟩ := veil_begin_of_clear clear alike
    exact ⟨worlds, by rw [courses]⟩
  settled := by
    intro w w' _ same _
    have untouched : ∀ u : World, ∀ key, hidden key = true → (c.settled u).cell key = u.cell key :=
      fun u key covered => Sum.inr.inj (read_settled (fun member => clear key member covered) u)
    exact behind (untouched w) (untouched w') same

end Probe

/-! ### Histories of one check -/

def Ask.isOwn : Ask → Bool
  | own => true
  | elsewhere _ => false

/-- Nothing elsewhere has to do with the cell. -/
def Ask.Leaves (key : Cell.Key) : Ask → Prop
  | own => True
  | elsewhere m => ∀ p ∈ m.checks, .cell key ∉ p.places

section Histories

variable {hidden : Cell.Key → Bool} {outer inner single : Cell.Key} {c : Probe} {s t : Session}

theorem behind_inStep (covered : ∀ key ∈ [outer, inner, single], hidden key = true) (b n : Nat) :
    Behind hidden fun w w' => InStep b n (w.cell outer) (w.cell inner) (w'.cell single) := by
  simp only [List.forall_mem_cons] at covered
  obtain ⟨covers, coversInner, coversSingle, -⟩ := covered
  intro u v w w' same same' step
  rwa [same outer covers, same inner coversInner, same' single coversSingle]

theorem Session.Paired.play?_nested (different : outer ≠ inner)
    (covered : ∀ key ∈ [outer, inner, single], hidden key = true) (clear : c.Clear (hidden ·))
    (guarded : c.Guarded) {asks : List Ask}
    (elsewhere : ∀ m, .elsewhere m ∈ asks → ∀ p ∈ m.checks, p.Clear (hidden ·))
    (paired : s.Paired hidden
      (fun w w' => InStep b n (w.cell outer) (w.cell inner) (w'.cell single)) t) :
    EndAlike hidden
      (fun w w' => InStep b (n + asks.countP Ask.isOwn) (w.cell outer) (w.cell inner)
        (w'.cell single))
      (s.play? (asks.map (Ask.move (.skip outer b (.skip inner a c)))))
      (t.play? (asks.map (Ask.move (.skip single (skipsWithin a b) c)))) := by
  induction asks generalizing s t n with
  | nil => exact .some ⟨paired, rfl⟩
  | cons ask rest ih =>
    have later : ∀ m, .elsewhere m ∈ rest → ∀ p ∈ m.checks, p.Clear (hidden ·) :=
      fun m member => elsewhere m (List.mem_cons_of_mem _ member)
    rw [List.map_cons, List.map_cons]
    cases ask with
    | own =>
      have twins := Probe.twins_nested different covered clear guarded a b n
      have told := paired.safeCheck (behind_inStep covered b (n + 1)) twins
      refine EndAlike.play?_cons (told.map fun reply => Answer.reply (.ok reply)) fun next => ?_
      have count : n + (Ask.own :: rest).countP Ask.isOwn = n + 1 + rest.countP Ask.isOwn := by
        rw [List.countP_cons_of_pos rfl]
        omega
      rw [count]
      exact ih later next
    | elsewhere m =>
      have moved := paired.move? (behind_inStep covered b n) (elsewhere m List.mem_cons_self)
      refine EndAlike.play?_cons moved fun next => ?_
      rw [List.countP_cons_of_neg (by simp [Ask.isOwn])]
      exact ih later next

/-! ### When the check inside is called -/

theorem enters_nested_iff (different : outer ≠ inner) {w w' : World}
    (step : InStep b n (w.cell outer) (w.cell inner) (w'.cell single)) :
    ((∃ u, (Probe.skip outer b (.skip inner a c)).Enters w c u) ↔ n % ((a + 1) * (b + 1)) = 0) ∧
      ((∃ u, (Probe.skip single (skipsWithin a b) c).Enters w' c u) ↔
        n % ((a + 1) * (b + 1)) = 0) := by
  have apart := World.cell_turn_other different w
  have nested : (∃ u, (Probe.skip outer b (.skip inner a c)).Enters w c u) ↔
      (w.cell outer).replay? b = none ∧ (w.cell inner).replay? a = none := by
    constructor
    · rintro ⟨u, enters⟩
      cases enters with
      | skip due inside =>
        cases inside with
        | skip due' _ => exact ⟨due, apart ▸ due'⟩
    · rintro ⟨due, due'⟩
      exact ⟨_, .skip due (.skip (apart.symm ▸ due') (.here ..))⟩
  rw [nested, Probe.enters_inner_iff]
  by_cases due : n % ((a + 1) * (b + 1)) = 0
  · obtain ⟨first, second, alone⟩ := step.replay?_of_due due
    exact ⟨iff_of_true ⟨first, second⟩ due, iff_of_true alone due⟩
  · by_cases passed : n % (b + 1) = 0
    · have skipped : n / (b + 1) % (a + 1) ≠ 0 := (mod_product_of_due passed).not.mp due
      obtain ⟨v, -, -, found, alone⟩ := step.replay?_of_passed passed skipped
      simp [due, found, alone]
    · obtain ⟨v, -, found, alone⟩ := step.replay?_of_skipped (a := a) passed
      simp [due, found, alone]

/-- A skipping check ends if the check inside always does. -/
theorem Probe.skip_ends {key : Cell.Key} {skips : Nat} (completes : ∀ w, (c.begin w).2 ≠ .never)
    (w : World) : ((Probe.skip key skips c).begin w).2 ≠ .never := by
  cases found : (w.cell key).replay? skips with
  | some v => simp [begin_of_replay found]
  | none =>
    rw [begin_of_due found]
    cases course : (c.begin (w.turn key)).2 with
    | never => exact absurd course (completes _)
    | ends after effects outcome =>
      simp only [Course.stored]
      split <;> simp

theorem Session.exists_play?_own {p : Probe} (completes : ∀ w, (p.begin w).2 ≠ .never)
    {asks : List Ask} (own : ∀ ask ∈ asks, ask.isOwn = true) (s : Session) :
    ∃ t, s.play? (asks.map (Ask.move p)) = some t := by
  induction asks generalizing s with
  | nil => exact ⟨_, rfl⟩
  | cons ask rest ih =>
    obtain ⟨first, later⟩ := List.forall_mem_cons.mp own
    cases ask with
    | elsewhere m => cases first
    | own =>
      cases course : (p.begin s.world).2 with
      | never => exact absurd course (completes _)
      | ends after effects outcome =>
        have moved : s.move? (.safeCheck p) = some (_, _) :=
          congrArg (Option.map _) (safeCheck_of_ends course)
        obtain ⟨t, played⟩ := ih later (s.waited (p.begin s.world).1 after effects)
        rw [List.map_cons, Ask.move, play?, moved, Option.bind_some, played]
        exact ⟨_, rfl⟩

/-- What is the same about two checks that call a third one once in a period, over a history in
which they are evaluated among whatever else. -/
structure SamePeriod (hidden : Cell.Key → Bool) (c : Probe) (period : Nat) (p q : Probe)
    (s : Session) (asks : List Ask) : Prop where
  /-- The answers are the same and, hidden cells apart, so is the session that is left. -/
  alike : (s.play? (asks.map (Ask.move p))).map (fun r => (r.1.veil hidden, r.2)) =
    (s.play? (asks.map (Ask.move q))).map fun r => (r.1.veil hidden, r.2)
  /-- Each calls the check inside next if it has been evaluated a multiple of the period. -/
  calls : ∀ t u answers, s.play? (asks.map (Ask.move p)) = some (t, answers) →
    s.play? (asks.map (Ask.move q)) = some (u, answers) →
    ((∃ w, p.Enters t.world c w) ↔ asks.countP Ask.isOwn % period = 0) ∧
      ((∃ w, q.Enters u.world c w) ↔ asks.countP Ask.isOwn % period = 0)
  ends : (∀ w, (c.begin w).2 ≠ .never) → (∀ ask ∈ asks, ask.isOwn = true) →
    ∃ r, s.play? (asks.map (Ask.move p)) = some r

theorem samePeriod_nested (different : outer ≠ inner)
    (covered : ∀ key ∈ [outer, inner, single], hidden key = true) (clear : c.Clear (hidden ·))
    (guarded : c.Guarded) {asks : List Ask}
    (elsewhere : ∀ m, .elsewhere m ∈ asks → ∀ p ∈ m.checks, p.Clear (hidden ·))
    (paired : s.Paired hidden
      (fun w w' => InStep b 0 (w.cell outer) (w.cell inner) (w'.cell single)) s) (a : Nat) :
    SamePeriod hidden c ((a + 1) * (b + 1)) (.skip outer b (.skip inner a c))
      (.skip single (skipsWithin a b) c) s asks := by
  have played := paired.play?_nested (a := a) different covered clear guarded elsewhere
  refine ⟨played.veiled, fun t u answers ended ended' => ?_, fun completes own => ?_⟩
  · rw [ended, ended', Nat.zero_add] at played
    cases played with
    | some same => exact enters_nested_iff different same.1.kept
  · exact Session.exists_play?_own (Probe.skip_ends (Probe.skip_ends completes)) own s

end Histories

end HealthWatch
