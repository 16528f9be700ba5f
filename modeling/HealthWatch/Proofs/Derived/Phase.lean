import HealthWatch.Proofs.Derived.Begun

/-!
# The phase of derived skipping checks

`Roster.withSkips` wraps checks that others share into skipping checks of its own. Whatever happens
to the shared checks elsewhere, the wrapped ones keep their own count and their own verdict
(`withSkips_phase`): each calls the shared check in every `skips + 1`-th of its own evaluations and
repeats what that call replied in between. A check that dies leaves nothing to repeat and is called
every time (`dying_never_skipped`).
-/

namespace HealthWatch

variable {key : Cell.Key} {skips : Nat} {p : Probe} {w : World} {v : Verdict}

/-! ### One evaluation of a skipping check -/

namespace Probe

theorem cell_settled_replay (found : (w.cell key).replay? skips = some v) (p : Probe) :
    ((skip key skips p).settled w).cell key = (w.cell key).turn := by
  rw [settled, begin_of_replay found]
  simp [Course.effects, Effect.applyAll, World.turn]

theorem cell_settled_inside (outside : .cell key ∉ p.places) (w : World) :
    (p.settled (w.turn key)).cell key = (w.cell key).turn := by
  have untouched := Sum.inr.inj (read_settled outside (w.turn key))
  simpa [World.turn] using untouched

theorem cell_settled_due (outside : .cell key ∉ p.places)
    (due : (w.cell key).replay? skips = none) {after : Nat} {effects : List Effect}
    {outcome : Outcome} (course : (p.begin (w.turn key)).2 = .ends after effects outcome)
    (reply : p.reply outcome = .verdict v) :
    ((skip key skips p).settled w).cell key = ⟨(w.cell key).turns + 1, some v⟩ := by
  have inside := cell_settled_inside outside w
  have stored : (skip key skips p).settled w = (p.settled (w.turn key)).store key v := by
    rw [settled, settled, begin_of_due due, course]
    simp only [Course.stored, reply, Course.effects, Effect.applyAll_append]
    rfl
  simp [stored, World.store, inside, Cell.turn]

theorem cell_settled_died (outside : .cell key ∉ p.places)
    (due : (w.cell key).replay? skips = none) {after : Nat} {effects : List Effect}
    {outcome : Outcome} (course : (p.begin (w.turn key)).2 = .ends after effects outcome)
    {text : String} (reply : p.reply outcome = .died text) :
    ((skip key skips p).settled w).cell key = (w.cell key).turn := by
  have inside := cell_settled_inside outside w
  rw [settled, course] at inside
  rw [settled, begin_of_due due, course]
  simpa only [Course.stored, reply, Course.effects] using inside

end Probe

namespace Begun

/-- The check inside begins, and its verdict is kept. -/
def Calls (b : Begun) (key : Cell.Key) (p : Probe) : Prop :=
  b.probe.begin b.world =
    ((p.begin (b.world.turn key)).1, (p.begin (b.world.turn key)).2.stored key p)

/-- The check inside does not begin, and a verdict is given again. -/
def Repeats (b : Begun) (key : Cell.Key) (v : Verdict) : Prop :=
  b.probe.begin b.world = (b.world.turn key, .ends 0 [] (.verdict v))

end Begun

/-- Every `skips + 1`-th evaluation calls the check inside; one in between repeats what the last
call replied. -/
def InPhaseAt (key : Cell.Key) (skips : Nat) (p : Probe) (evaluations : List Begun) (i : Nat)
    (b : Begun) : Prop :=
  if i % (skips + 1) = 0 then b.Calls key p
  else ∃ c v, evaluations[i - i % (skips + 1)]? = some c ∧ c.Calls key p ∧ c.Replies v ∧
    b.Repeats key v

def InPhase (key : Cell.Key) (skips : Nat) (p : Probe) (evaluations : List Begun) : Prop :=
  ∀ i b, evaluations[i]? = some b → InPhaseAt key skips p evaluations i b

/-- What a cell holds after evaluations of its skipping check. -/
structure Phased (key : Cell.Key) (skips : Nat) (p : Probe) (evaluations : List Begun)
    (c : Cell) : Prop where
  turns : c.turns = evaluations.length
  phase : InPhase key skips p evaluations
  kept : ∀ i b, evaluations[i]? = some b → i % (skips + 1) = 0 →
    evaluations.length ≤ i + (skips + 1) → ∃ v, b.Replies v ∧ c.stored = some v

/-- Nothing is ever stored for a check that dies. -/
structure Unstored (key : Cell.Key) (p : Probe) (evaluations : List Begun) (c : Cell) : Prop where
  called : ∀ b ∈ evaluations, b.Calls key p
  empty : c.stored = none

variable {evaluations : List Begun} {b : Begun}

theorem Begun.calls_of_due (same : b.probe = .skip key skips p)
    (due : (b.world.cell key).replay? skips = none) : b.Calls key p := by
  rw [Calls, same]
  exact Probe.begin_of_due due p

/-- A call that ends is the end of a call of the check inside. -/
theorem Begun.inside_of_ends (called : b.Calls key p) {after : Nat} {effects : List Effect}
    {outcome : Outcome} (ends : b.course = .ends after effects outcome) :
    ∃ more result, (p.begin (b.world.turn key)).2 = .ends after more result := by
  rw [course, called] at ends
  cases inside : (p.begin (b.world.turn key)).2 with
  | never => simp [inside, Course.stored] at ends
  | ends time more result =>
    simp only [inside, Course.stored] at ends
    split at ends <;>
    · obtain ⟨rfl, -, -⟩ := Course.ends.inj ends
      exact ⟨more, result, rfl⟩

theorem getElem?_snoc {α : Type} {l : List α} {a c : α} {i : Nat}
    (present : (l ++ [a])[i]? = some c) : i < l.length ∧ l[i]? = some c ∨ i = l.length ∧ c = a := by
  rcases Nat.lt_or_ge i l.length with before | behind
  · rw [List.getElem?_append_left before] at present
    exact .inl ⟨before, present⟩
  · rw [List.getElem?_append_right behind, List.getElem?_singleton] at present
    split at present
    · exact .inr ⟨by omega, (Option.some.inj present).symm⟩
    · cases present

theorem InPhaseAt.snoc {i : Nat} {c : Begun} (at_ : InPhaseAt key skips p evaluations i c)
    (b : Begun) : InPhaseAt key skips p (evaluations ++ [b]) i c := by
  unfold InPhaseAt at at_ ⊢
  split
  · rename_i due
    rwa [if_pos due] at at_
  · rename_i skipped
    rw [if_neg skipped] at at_
    obtain ⟨d, v, present, rest⟩ := at_
    have inside := (List.getElem?_eq_some_iff.mp present).1
    exact ⟨d, v, by rwa [List.getElem?_append_left inside], rest⟩

theorem InPhase.snoc (phase : InPhase key skips p evaluations)
    (last : InPhaseAt key skips p evaluations evaluations.length b) :
    InPhase key skips p (evaluations ++ [b]) := by
  intro i c present
  rcases getElem?_snoc present with ⟨-, old⟩ | ⟨rfl, rfl⟩
  · exact (phase i c old).snoc b
  · exact last.snoc _

theorem Phased.replay?_due {c : Cell} (phased : Phased key skips p evaluations c)
    (due : evaluations.length % (skips + 1) = 0) : c.replay? skips = none := by
  rw [Cell.replay?, phased.turns, if_pos due]

/-- In between, what the last call replied is repeated. -/
theorem Phased.replay?_skipped {c : Cell} (phased : Phased key skips p evaluations c)
    (skipped : evaluations.length % (skips + 1) ≠ 0) :
    ∃ d v, evaluations[evaluations.length - evaluations.length % (skips + 1)]? = some d ∧
      d.Calls key p ∧ d.Replies v ∧ c.replay? skips = some v := by
  obtain ⟨last, at_⟩ : ∃ i, i = evaluations.length - evaluations.length % (skips + 1) := ⟨_, rfl⟩
  have whole := Nat.div_add_mod evaluations.length (skips + 1)
  have short : evaluations.length % (skips + 1) < skips + 1 := Nat.mod_lt _ (Nat.succ_pos skips)
  have started : last % (skips + 1) = 0 := by
    have : last = (skips + 1) * (evaluations.length / (skips + 1)) := by omega
    rw [this, Nat.mul_mod_right]
  have inside : last < evaluations.length := by omega
  have present := List.getElem?_eq_getElem inside
  obtain ⟨v, replied, stored⟩ := phased.kept last _ present started (by omega)
  have called : evaluations[last].Calls key p := by
    have law := phased.phase last _ present
    rwa [InPhaseAt, if_pos started] at law
  rw [← at_]
  exact ⟨_, v, present, called, replied, by rw [Cell.replay?, phased.turns, if_neg skipped, stored]⟩

theorem Phased.call (phased : Phased key skips p evaluations (b.world.cell key))
    (guarded : p.Guarded) (outside : .cell key ∉ p.places) (same : b.probe = .skip key skips p)
    (ended : ∃ after effects outcome, b.course = .ends after effects outcome)
    (due : evaluations.length % (skips + 1) = 0) :
    Phased key skips p (evaluations ++ [b]) ((b.probe.settled b.world).cell key) := by
  have nothing := phased.replay?_due due
  have called := Begun.calls_of_due same nothing
  obtain ⟨after, effects, outcome, ends⟩ := ended
  obtain ⟨more, result, inside⟩ := Begun.inside_of_ends called ends
  have replied : b.Replies result.caught := by
    refine ⟨after, more ++ [.stored key result.caught], .verdict result.caught, ?_, by rw [same]; rfl⟩
    rw [Begun.course, called, inside, Course.stored, guarded result]
  rw [same, Probe.cell_settled_due outside nothing inside (guarded result)]
  refine ⟨by simp [phased.turns], phased.phase.snoc (by rwa [InPhaseAt, if_pos due]), ?_⟩
  intro i c present started recent
  rw [List.length_append, List.length_singleton] at recent
  rcases getElem?_snoc present with ⟨before, -⟩ | ⟨-, rfl⟩
  · -- Two calls are at least `skips + 1` evaluations apart.
    have apart : skips + 1 ∣ evaluations.length - i :=
      Nat.dvd_sub (Nat.dvd_of_mod_eq_zero due) (Nat.dvd_of_mod_eq_zero started)
    have far := Nat.le_of_dvd (by omega) apart
    omega
  · exact ⟨_, replied, rfl⟩

theorem Phased.repeat (phased : Phased key skips p evaluations (b.world.cell key))
    (same : b.probe = .skip key skips p) (skipped : evaluations.length % (skips + 1) ≠ 0) :
    Phased key skips p (evaluations ++ [b]) ((b.probe.settled b.world).cell key) := by
  obtain ⟨d, v, present, called, replied, found⟩ := phased.replay?_skipped skipped
  have repeats : b.Repeats key v := by
    rw [Begun.Repeats, same]
    exact Probe.begin_of_replay found p
  rw [same, Probe.cell_settled_replay found]
  refine ⟨by simp [Cell.turn, phased.turns], phased.phase.snoc ?_, ?_⟩
  · rw [InPhaseAt, if_neg skipped]
    exact ⟨d, v, present, called, replied, repeats⟩
  · intro i c present started recent
    rw [List.length_append, List.length_singleton] at recent
    rcases getElem?_snoc present with ⟨before, old⟩ | ⟨rfl, -⟩
    · exact phased.kept i c old started (by omega)
    · exact absurd started skipped

theorem Phased.next (phased : Phased key skips p evaluations (b.world.cell key))
    (guarded : p.Guarded) (outside : .cell key ∉ p.places) (same : b.probe = .skip key skips p)
    (ended : ∃ after effects outcome, b.course = .ends after effects outcome) :
    Phased key skips p (evaluations ++ [b]) ((b.probe.settled b.world).cell key) := by
  by_cases due : evaluations.length % (skips + 1) = 0
  · exact phased.call guarded outside same ended due
  · exact phased.repeat same due

theorem Unstored.next (unstored : Unstored key p evaluations (b.world.cell key))
    {text : String}
    (dies : ∀ outcome, p.reply outcome = .died text) (outside : .cell key ∉ p.places)
    (same : b.probe = .skip key skips p)
    (ended : ∃ after effects outcome, b.course = .ends after effects outcome) :
    Unstored key p (evaluations ++ [b]) ((b.probe.settled b.world).cell key) := by
  have nothing : (b.world.cell key).replay? skips = none := by
    rw [Cell.replay?, unstored.empty, ite_self]
  have called := Begun.calls_of_due same nothing
  obtain ⟨after, effects, outcome, ends⟩ := ended
  obtain ⟨more, result, inside⟩ := Begun.inside_of_ends called ends
  rw [same, Probe.cell_settled_died outside nothing inside (dies result)]
  refine ⟨fun c member => ?_, unstored.empty⟩
  rcases List.mem_append.mp member with old | new
  · exact unstored.called c old
  · exact List.mem_singleton.mp new ▸ called

/-! ### Derived rosters -/

namespace Roster

variable {r : Roster} {series : Nat} {counts : NameMap UInt32} {name : String} {count : UInt32}

theorem get?_withSkips (r : Roster) (series : Nat) (counts : NameMap UInt32) (name : String) :
    (r.withSkips series counts).get? name = (r.get? name).map fun p =>
      match counts.find? name with
      | some count => if 0 < count then .skip ⟨series, name⟩ count.toNat p else p
      | none => p :=
  r.checks.find?_map _ name

theorem get?_withSkips_counted (present : r.get? name = some p)
    (counted : counts.find? name = some count) (positive : 0 < count) :
    (r.withSkips series counts).get? name = some (.skip ⟨series, name⟩ count.toNat p) := by
  simp [get?_withSkips, present, counted, positive]

theorem get?_withSkips_other (zero : ∀ count, counts.find? name = some count → count = 0) :
    (r.withSkips series counts).get? name = r.get? name := by
  rw [get?_withSkips]
  cases counted : counts.find? name with
  | none => simp
  | some count => simp [zero count counted]

theorem withSkips_congr {others : NameMap UInt32}
    (same : ∀ name ∈ r.names, others.find? name = counts.find? name) :
    r.withSkips series others = r.withSkips series counts := by
  refine congrArg Roster.mk (NameMap.ext (List.map_congr_left fun e member => ?_))
  dsimp only
  rw [same e.1 (List.mem_map_of_mem member)]

theorem asked_withSkips (w : World) (e : Evaluation) :
    (r.withSkips series counts).asked w e = r.asked w e := by
  have active : ((r.withSkips series counts).active w).map (·.1) = (r.active w).map (·.1) := by
    simp only [Roster.active, withSkips, NameMap.map, List.filter_map, List.map_map,
      Function.comp_def]
    refine congrArg (List.map _) (List.filter_congr fun f _ => ?_)
    cases counts.find? f.1 with
    | none => rfl
    | some count =>
      dsimp only
      split <;> rfl
  cases e with
  | runOne name => simp [asked, get?_withSkips]
  | run => exact active
  | fanOut workers timeout => exact active
  | fanOutCut workers timeout time => exact active

/-- The cell of a derived check belongs to this check alone. -/
theorem withSkips_others (avoids : ∀ e ∈ r.checks.entries, e.2.Avoids series) :
    ∀ f ∈ (r.withSkips series counts).checks.entries, f.1 ≠ name →
      .cell ⟨series, name⟩ ∉ f.2.places := by
  intro f member different
  obtain ⟨e, inside, rfl⟩ := List.mem_map.mp member
  have clear := avoids e inside name
  dsimp only at different ⊢
  split
  · split
    · intro touched
      rcases List.mem_cons.mp touched with same | inner
      · exact different (congrArg Cell.Key.name (Place.cell.inj same)).symm
      · exact clear inner
    · exact clear
  · exact clear

/-- A history of completed evaluations of a roster, with all that they have begun, among moves that
involve no cell of the series. -/
inductive Story (r : Roster) (series : Nat) (first : Session) : Session → List Begun → Prop
  | start : Story r series first first []
  | evaluate {s t : Session} {log : List Begun} {e : Evaluation} {answer : Answer} :
    Story r series first s log → r.evaluate? s e = some (t, answer) → r.Completes s e answer →
    Story r series first t (log ++ r.begun s e)
  | elsewhere {s t : Session} {log : List Begun} {m : Move} {answer : Answer} :
    Story r series first s log → (∀ p ∈ m.checks, p.Avoids series) →
    s.move? m = some (t, answer) → Story r series first t log

variable {first s : Session} {log : List Begun}

/-- What holds of a fresh cell and is kept by every evaluation of its check holds all the time. -/
theorem Story.keeps (avoids : ∀ e ∈ r.checks.entries, e.2.Avoids series)
    (unused : first.Unused series) (present : r.get? name = some p)
    (counted : counts.find? name = some count) (positive : 0 < count)
    (kept : List Begun → Cell → Prop) (fresh : kept [] .fresh)
    (next : ∀ evaluations b, b.probe = .skip ⟨series, name⟩ count.toNat p →
      (∃ after effects outcome, b.course = .ends after effects outcome) →
      kept evaluations (b.world.cell ⟨series, name⟩) →
      kept (evaluations ++ [b]) ((b.probe.settled b.world).cell ⟨series, name⟩))
    (story : (r.withSkips series counts).Story series first s log) :
    s.Spares (.cell ⟨series, name⟩) ∧ kept (Begun.under name log) (s.world.cell ⟨series, name⟩) ∧
      ∀ b ∈ Begun.under name log, b.probe = .skip ⟨series, name⟩ count.toNat p := by
  induction story with
  | start => exact ⟨unused.spares name, unused.fresh name ▸ fresh, by simp [Begun.under]⟩
  | @evaluate u _ _ _ _ _ evaluated completes ih =>
    obtain ⟨spares, held, ours⟩ := ih
    obtain ⟨free, left⟩ := evaluate?_at (withSkips_others avoids) spares evaluated completes
    rw [Begun.under_append]
    rcases left with ⟨nothing, read⟩ | ⟨b, only, began, read⟩
    · rw [nothing, List.append_nil, Sum.inr.inj read]
      exact ⟨free, held, ours⟩
    · obtain ⟨member, named⟩ := List.mem_filter.mp (only ▸ List.mem_singleton_self b : b ∈ Begun.under name _)
      obtain rfl : b.name = name := eq_of_beq named
      have probe : b.probe = .skip ⟨series, b.name⟩ count.toNat p :=
        Option.some.inj ((begun_get? member).symm.trans
          (get?_withSkips_counted present counted positive))
      have cell : b.world.cell ⟨series, b.name⟩ = u.world.cell ⟨series, b.name⟩ := Sum.inr.inj began
      have ended := ends_of_begun evaluated completes member
      rw [only, Sum.inr.inj read]
      refine ⟨free, next _ b probe ended (cell ▸ held), fun c inside => ?_⟩
      rcases List.mem_append.mp inside with old | new
      · exact ours c old
      · exact List.mem_singleton.mp new ▸ probe
  | elsewhere _ foreign moved ih =>
    obtain ⟨spares, held, ours⟩ := ih
    obtain ⟨free, read⟩ := Session.move?_spared (fun p member => foreign p member name) spares moved
    exact ⟨free, Sum.inr.inj read ▸ held, ours⟩

/-- Over every history in which the evaluations of a roster `r'`, derived from `r` by skip counts,
complete, and in which nothing else has a cell of `r'`:

* the evaluations of a check with a count, taken for themselves, are in phase: every `count + 1`-th
  calls the check of `r`, and the others repeat what the last of these calls replied;
* a check that dies is called by every evaluation;
* a check without a count, or with zero, is the very same, and counts for other names change
  nothing;
* the names are those of `r`, and so are those that an evaluation is about;
* an evaluation of any roster begins, once each, the checks that it is about, as they stand in the
  roster itself; it tells what they reply, and leaves of a place that only one of them touches what
  this check leaves there. -/
theorem withSkips_phase (avoids : ∀ e ∈ r.checks.entries, e.2.Avoids series)
    (unused : first.Unused series)
    (story : (r.withSkips series counts).Story series first s log) :
    (∀ name p count, r.get? name = some p → counts.find? name = some count → 0 < count →
      (∀ b ∈ Begun.under name log, b.probe = .skip ⟨series, name⟩ count.toNat p) ∧
      (p.Guarded → InPhase ⟨series, name⟩ count.toNat p (Begun.under name log)) ∧
      (¬p.Guarded → ∀ b ∈ Begun.under name log, b.Calls ⟨series, name⟩ p)) ∧
    (∀ name, (∀ count, counts.find? name = some count → count = 0) →
      (r.withSkips series counts).get? name = r.get? name) ∧
    (∀ others : NameMap UInt32, (∀ name ∈ r.names, others.find? name = counts.find? name) →
      r.withSkips series others = r.withSkips series counts) ∧
    (r.withSkips series counts).names = r.names ∧
    (∀ w e, (r.withSkips series counts).asked w e = r.asked w e) ∧
    ∀ (q : Roster) (u t : Session) (e : Evaluation) (answer : Answer),
      q.evaluate? u e = some (t, answer) → q.Completes u e answer →
      (q.begun u e).map (·.name) = q.asked u.world e ∧
      (∀ b ∈ q.begun u e, q.get? b.name = some b.probe ∧
        ∀ v, b.Replies v → answer.verdict? b.name = some v) ∧
      ∀ name place, (∀ f ∈ q.checks.entries, f.1 ≠ name → place ∉ f.2.places) → u.Spares place →
        Leaves u t place (Begun.under name (q.begun u e)) := by
  refine ⟨fun name p count present counted positive => ?_, fun name => get?_withSkips_other,
    fun others => withSkips_congr, r.checks.names_map _, asked_withSkips,
    fun q u t e answer evaluated completes => ⟨names_begun evaluated completes, fun b member =>
      ⟨begun_get? member, fun v => told_of_begun evaluated completes member⟩,
      fun name place others spares => (evaluate?_at others spares evaluated completes).2⟩⟩
  have outside : .cell ⟨series, name⟩ ∉ p.places :=
    avoids (name, p) (NameMap.mem_of_find? present) name
  have ours := (story.keeps avoids unused present counted positive (fun _ _ => True) trivial
    fun _ _ _ _ _ => trivial).2.2
  refine ⟨ours, fun guarded => ?_, fun unguarded => ?_⟩
  · have phased := story.keeps avoids unused present counted positive
      (Phased ⟨series, name⟩ count.toNat p) ⟨rfl, nofun, nofun⟩
      fun evaluations b same ended phased => phased.next guarded outside same ended
    exact phased.2.1.phase
  · obtain ⟨text, dies⟩ := p.guarded_or_dies.resolve_left unguarded
    have unstored := story.keeps avoids unused present counted positive
      (Unstored ⟨series, name⟩ p) ⟨by simp, rfl⟩
      fun evaluations b same ended unstored => unstored.next dies outside same ended
    exact unstored.2.1.called

def database : Probe :=
  .leaf (.ofList "db" [.finish 0 (.verdict (.ok "one")), .finish 0 (.verdict (.ok "two")),
    .finish 0 (.verdict (.ok "three"))] true)

def shared : Roster :=
  ⟨.ofList [("db", database), ("log", .leaf (.ofList "log" [.finish 0 (.verdict .healthy)] true))]⟩

/-- Asks the database every other time. -/
def sparing : Roster :=
  shared.withSkips 1 (.ofList [("db", 1), ("ghost", 7)])

/-- The second evaluation repeats what the first one told, although the database was called in
between, and the third one calls again. -/
theorem withSkips_phase_shared :
    ∃ s log, sparing.Story 1 .fresh s log ∧ (Begun.under "db" log).length = 3 ∧
      (s.world.tally "db").begun = 3 ∧ InPhase ⟨1, "db"⟩ 1 database (Begun.under "db" log) := by
  have avoids : ∀ e ∈ shared.checks.entries, e.2.Avoids 1 := by
    intro e member name inside
    rcases member with _ | ⟨_, _ | ⟨_, none⟩⟩
    · simp [database, Probe.places] at inside
    · simp [Probe.places] at inside
    · cases none
  have foreign : ∀ p ∈ (Move.evaluate shared .run).checks, p.Avoids 1 := by
    intro p member
    obtain ⟨e, inside, rfl⟩ := List.mem_map.mp member
    exact avoids e inside
  have once : sparing.Story 1 .fresh _ _ := .evaluate (e := .run) .start rfl ⟨_, rfl⟩
  have meanwhile : sparing.Story 1 .fresh _ _ :=
    .elsewhere (m := .evaluate shared .run) once foreign rfl
  have again : sparing.Story 1 .fresh _ _ := .evaluate (e := .run) meanwhile rfl ⟨_, rfl⟩
  have single : sparing.Story 1 .fresh _ _ := .evaluate (e := .runOne "db") again rfl trivial
  obtain ⟨laws, -⟩ := withSkips_phase avoids (Session.unused_fresh 1) single
  have phase := (laws "db" database 1 rfl rfl (by decide)).2.1 fun _ => rfl
  exact ⟨_, _, single, rfl, rfl, phase⟩

def flawed : Roster :=
  ⟨.ofList [("n", .dying "n" "boom")]⟩

/-- Its second evaluation should be skipped, and calls it again. -/
theorem dying_never_skipped :
    (Session.fresh.play? [.evaluate (flawed.withSkips 0 (.ofList [("n", 1)])) .run,
        .evaluate (flawed.withSkips 0 (.ofList [("n", 1)])) .run]).map
      (fun a => (a.2.map (·.verdict? "n"), (a.1.world.tally "n").begun)) =
    some ([some (Outcome.panic (.text "boom")).caught, some (Outcome.panic (.text "boom")).caught],
      2) := by
  decide +kernel

end Roster

end HealthWatch
