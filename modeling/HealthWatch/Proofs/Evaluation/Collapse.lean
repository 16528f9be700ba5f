import HealthWatch.Proofs.Evaluation.Limits
import Mathlib.Data.ENat.Lattice

/-!
# A time limit around a time limit

Of two time limits around a check the shorter one counts. `limits_collapse` says that no history
tells the two from the shorter one alone, and what each evaluation does: it ends when the check does
or when the shorter limit is over, and the check inside is left as it ended or, if it is given up,
as it began.
-/

namespace HealthWatch

variable {a b ms : Nat} {c : Probe} {s t : Session}

namespace Course

/-- The course with a verdict in place of what is none. -/
def caught : Course → Course
  | .never => .never
  | .ends after effects outcome => .ends after effects (.verdict outcome.caught)

theorem caught_caught (course : Course) : course.caught.caught = course.caught := by
  cases course <;> rfl

theorem Late.mono {course : Course} (late : course.Late b) (shorter : a ≤ b) : course.Late a :=
  fun after ends => Nat.lt_of_le_of_lt shorter (late after ends)

/-- What the shorter limit gives up comes through the other one as it is. -/
theorem limited_limited (course : Course) (a b : Nat) (inner : Probe) :
    (course.limited b inner).limited a (.limit b inner) =
      (course.limited (min a b) inner).caught := by
  by_cases late : course.Late b
  · rw [limited_of_late late, limited_overrun (fun _ => rfl), Nat.min_comm,
      limited_of_late (late.mono (Nat.min_le_right ..))]
    rfl
  cases course with
  | never => exact absurd (late_never b) late
  | ends after effects outcome =>
    have inTime : after ≤ b := Nat.not_lt.mp fun beyond => late (late_ends.mpr beyond)
    rw [limited_of_inTime inTime]
    by_cases early : after ≤ a
    · rw [limited_of_inTime early, limited_of_inTime (Nat.le_min.mpr ⟨early, inTime⟩)]
      rfl
    · have beyond : a < after := Nat.not_le.mp early
      rw [limited_of_late (late_ends.mpr beyond), Nat.min_eq_left (by omega),
        limited_of_late (late_ends.mpr beyond)]
      rfl

end Course

theorem Probe.begin_limit_limit (a b : Nat) (c : Probe) (w : World) :
    (limit a (limit b c)).begin w =
      (((limit (min a b) c).begin w).1, ((limit (min a b) c).begin w).2.caught) := by
  rw [begin_limit, begin_limit, begin_limit, Course.limited_limited]

namespace Session

theorem check_of_caught {p q : Probe}
    (begun : p.begin s.world = ((q.begin s.world).1, (q.begin s.world).2.caught)) :
    s.check p = (s.check q).map fun r => (r.1, .verdict r.2.caught) := by
  cases course : (q.begin s.world).2 with
  | never =>
    rw [course] at begun
    rw [check_of_never course, check_of_never (congrArg Prod.snd begun)]
    rfl
  | ends after effects outcome =>
    rw [course] at begun
    rw [check_of_ends course, check_of_ends (congrArg Prod.snd begun), begun]
    rfl

theorem check_limit_limit (s : Session) (a b : Nat) (c : Probe) :
    s.check (.limit a (.limit b c)) =
      (s.check (.limit (min a b) c)).map fun r => (r.1, .verdict r.2.caught) :=
  check_of_caught (Probe.begin_limit_limit a b c s.world)

theorem safeCheck_limit_limit (s : Session) (a b : Nat) (c : Probe) :
    s.safeCheck (.limit a (.limit b c)) = s.safeCheck (.limit (min a b) c) := by
  rw [safeCheck, safeCheck, check_limit_limit, Option.map_map]
  rfl

theorem play?_limit_limit (s : Session) (a b : Nat) (c : Probe) (asks : List Ask) :
    s.play? (asks.map (Ask.move (.limit a (.limit b c)))) =
      s.play? (asks.map (Ask.move (.limit (min a b) c))) := by
  induction asks generalizing s with
  | nil => rfl
  | cons ask rest ih =>
    have same : s.move? (ask.move (.limit a (.limit b c))) =
        s.move? (ask.move (.limit (min a b) c)) := by
      cases ask with
      | own => exact congrArg (Option.map _) (s.safeCheck_limit_limit a b c)
      | elsewhere m => rfl
    simp only [List.map_cons, play?, same, ih]

/-! ### One evaluation inside a limit -/

/-- How long it takes to evaluate a check; for ever if it never ends. -/
def takes (s : Session) (c : Probe) : ℕ∞ :=
  match s.safeCheck c with
  | some (t, _) => (t.now - s.now : Nat)
  | none => ⊤

theorem takes_of_ends {after : Nat} {effects : List Effect} {outcome : Outcome}
    (course : (c.begin s.world).2 = .ends after effects outcome) : s.takes c = after := by
  rw [takes, safeCheck_of_ends course]
  simp

theorem safeCheck_limit_of_inTime {after : Nat} {effects : List Effect} {outcome : Outcome}
    (course : (c.begin s.world).2 = .ends after effects outcome) (inTime : after ≤ ms) :
    s.safeCheck (.limit ms c) = some (s.waited (c.begin s.world).1 after effects,
      .verdict (c.reply outcome).outcome.caught) := by
  have limited : ((Probe.limit ms c).begin s.world).2 =
      .ends after effects (c.reply outcome).outcome := by
    rw [Probe.begin_limit, course, Course.limited_of_inTime inTime]
  exact safeCheck_of_ends limited

theorem safeCheck_limit_of_late (late : (c.begin s.world).2.Late ms) :
    s.safeCheck (.limit ms c) =
      some (s.waited (c.begin s.world).1 ms [.overran ms], .verdict .timedOut) := by
  have limited : ((Probe.limit ms c).begin s.world).2 = .overrun ms := by
    rw [Probe.begin_limit, Course.limited_of_late late]
  exact safeCheck_of_ends limited

theorem late_iff_lt_takes : (c.begin s.world).2.Late ms ↔ (ms : ℕ∞) < s.takes c := by
  cases course : (c.begin s.world).2 with
  | never => simp [takes, safeCheck_of_never course]
  | ends after effects outcome => simp [takes_of_ends course]

structure EndsWithin (s : Session) (ms : Nat) (c : Probe) (t : Session) (v : Verdict) : Prop where
  now : (t.now : ℕ∞) = s.now + min (ms : ℕ∞) (s.takes c)
  /-- In time, the check leaves and replies what it does without the limit; a death is a verdict. -/
  inTime : s.takes c ≤ ms → ∃ reply, s.safeCheck c = some (t, reply) ∧ v = reply.outcome.caught
  /-- Of a check that is given up, nothing happens but its begin. -/
  late : ms < s.takes c → v = .timedOut ∧ ∀ place, s.Spares place →
    t.Spares place ∧ t.world.read place = (c.begin s.world).1.read place

theorem endsWithin_of_late (late : (c.begin s.world).2.Late ms) :
    s.EndsWithin ms c (s.waited (c.begin s.world).1 ms [.overran ms]) .timedOut := by
  have beyond := late_iff_lt_takes.mp late
  refine ⟨?_, fun inTime => absurd inTime (not_le.mpr beyond),
    fun _ => ⟨rfl, fun place spares => ?_⟩⟩
  · rw [min_eq_left beyond.le, now_waited]
    rfl
  · obtain ⟨read, free⟩ := safeCheck_spared spares (safeCheck_limit_of_late late)
    refine ⟨free, read.trans ?_⟩
    rw [Probe.settled, Probe.begin_limit, Course.limited_of_late late]
    rfl

theorem endsWithin_of_inTime {after : Nat} {effects : List Effect} {outcome : Outcome}
    (course : (c.begin s.world).2 = .ends after effects outcome) (inTime : after ≤ ms) :
    s.EndsWithin ms c (s.waited (c.begin s.world).1 after effects)
      (c.reply outcome).outcome.caught := by
  have takes := takes_of_ends course
  have early : s.takes c ≤ ms := takes ▸ Nat.cast_le.mpr inTime
  refine ⟨?_, fun _ => ⟨_, safeCheck_of_ends course, rfl⟩,
    fun late => absurd early (not_le.mpr late)⟩
  rw [min_eq_right early, takes, now_waited]
  rfl

/-- A time limit always comes to an end. -/
theorem exists_endsWithin (s : Session) (ms : Nat) (c : Probe) :
    ∃ t v, s.safeCheck (.limit ms c) = some (t, .verdict v) ∧ s.EndsWithin ms c t v := by
  by_cases late : (c.begin s.world).2.Late ms
  · exact ⟨_, _, safeCheck_limit_of_late late, endsWithin_of_late late⟩
  cases course : (c.begin s.world).2 with
  | never => exact absurd (course ▸ Course.late_never ms) late
  | ends after effects outcome =>
    have inTime : after ≤ ms := by simpa [course] using late
    exact ⟨_, _, safeCheck_limit_of_inTime course inTime, endsWithin_of_inTime course inTime⟩

/-- A time limit around a time limit is the shorter one of the two, whatever the check inside does:

* every history of evaluations, among whatever else, gives the same answers and leaves the same
  session behind;
* without protection, too, an evaluation leaves the same session, and a verdict in place of what is
  none;
* each evaluation ends, after the shorter limit or as soon as the check inside ends, which then
  leaves and tells what it does by itself; a check that is given up has only begun. -/
theorem limits_collapse (a b : Nat) (c : Probe) (s : Session) :
    (∀ asks : List Ask, s.play? (asks.map (Ask.move (.limit a (.limit b c)))) =
      s.play? (asks.map (Ask.move (.limit (min a b) c)))) ∧
    s.check (.limit a (.limit b c)) =
      (s.check (.limit (min a b) c)).map (fun r => (r.1, .verdict r.2.caught)) ∧
    ∃ t v, s.safeCheck (.limit a (.limit b c)) = some (t, .verdict v) ∧
      s.safeCheck (.limit (min a b) c) = some (t, .verdict v) ∧ s.EndsWithin (min a b) c t v := by
  refine ⟨s.play?_limit_limit a b c, s.check_limit_limit a b c, ?_⟩
  obtain ⟨t, v, ended, within⟩ := s.exists_endsWithin (min a b) c
  exact ⟨t, v, (s.safeCheck_limit_limit a b c).trans ended, ended, within⟩

/-- A check that is given up leaves nothing to repeat, so that the second evaluation calls again. -/
example :
    let c : Probe := .skip ⟨0, "b"⟩ 2 (.leaf (.ofList "b"
      [.finish 50 (.verdict .healthy), .finish 5 (.verdict (.warning "late"))] true))
    (fresh.play? ([.own, .own, .own].map (Ask.move (.limit 30 (.limit 20 c))))).map
      (fun r => (r.1.now, r.1.world.tally "b", r.1.world.cell ⟨0, "b"⟩)) =
    some (25, ⟨2, 1⟩, ⟨3, some (.warning "late")⟩) := by
  cbv

end Session

end HealthWatch
