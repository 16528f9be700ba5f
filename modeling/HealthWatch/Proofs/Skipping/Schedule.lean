import HealthWatch.Proofs.Derived.Phase
import HealthWatch.Proofs.Evaluation.Limits
import Mathlib.Algebra.Order.Floor.Div
import Mathlib.Data.List.Induction

/-!
# The schedule of a skipping check

Invocations of a skipping check that follow one another, alone or inside time limits. A run of the
check inside may complete, be given up by a limit or die, and from one invocation to the next the
check inside may behave as it likes. `Invoked.follows` says what one invocation does after those
before it, `skip_schedule` what any number of them do.
-/

namespace HealthWatch

variable {key : Cell.Key} {skips : Nat} {p inner : Probe} {limits : List Nat} {w : World}

/-! ### Runs of the check inside -/

/-- What an invocation of the skipping check begins is an evaluation of the check inside, whose
verdict is kept at its end. -/
def Probe.Runs (key : Cell.Key) (skips : Nat) (inner : Probe) (w : World) : Prop :=
  (skip key skips inner).begin w =
    ((inner.begin (w.turn key)).1, (inner.begin (w.turn key)).2.stored key inner)

inductive RunEnd where
  | completed (v : Verdict)
  /-- A time limit gave it up, or it goes on for ever. -/
  | dropped
  | died (text : String)

def RunEnd.ofReply : Reply → RunEnd
  | .verdict v => .completed v
  | .died text => .died text

namespace Probe

theorem guarded_skip (key : Cell.Key) (skips : Nat) (inner : Probe) :
    (skip key skips inner).Guarded := fun _ => rfl

/-- How a run that begins in the world ends inside time limits. -/
def runEnd (p : Probe) (limits : List Nat) (w : World) : RunEnd :=
  match (p.begin w).2 with
  | .never => .dropped
  | .ends after _ outcome =>
    if ∀ ms ∈ limits, after ≤ ms then .ofReply (p.reply outcome) else .dropped

/-- To begin an evaluation leaves a trace: a call has begun or an invocation is counted. -/
theorem counts_begin (p : Probe) (w : World) :
    (∃ id, (w.tally id).begun < ((p.begin w).1.tally id).begun) ∨
      ∃ key, (w.cell key).turns < ((p.begin w).1.cell key).turns := by
  induction p generalizing w with
  | leaf l => exact .inl ⟨l.id, by simp [begin, World.begin]⟩
  | dying id text => exact .inl ⟨id, by simp [begin, World.begin]⟩
  | skip key skips inner ih =>
    have turned : ∀ k, (w.cell k).turns ≤ ((w.turn key).cell k).turns := by
      intro k
      simp only [World.turn]
      split
      · exact Nat.le_succ _
      · exact Nat.le_refl _
    cases found : (w.cell key).replay? skips with
    | some v => exact .inr ⟨key, by simp [begin_of_replay found, World.turn, Cell.turn]⟩
    | none =>
      rw [begin_of_due found]
      rcases ih (w.turn key) with ⟨id, more⟩ | ⟨k, more⟩
      · exact .inl ⟨id, more⟩
      · exact .inr ⟨k, Nat.lt_of_le_of_lt (turned k) more⟩
  | limit ms inner ih => exact ih w

theorem begin_ne (p : Probe) (w : World) : (p.begin w).1 ≠ w := by
  intro same
  rcases p.counts_begin w with ⟨id, more⟩ | ⟨key, more⟩
  · exact Nat.lt_irrefl _ (same ▸ more)
  · exact Nat.lt_irrefl _ (same ▸ more)

theorem runs_iff : Runs key skips inner w ↔ (w.cell key).replay? skips = none := by
  constructor
  · intro runs
    cases found : (w.cell key).replay? skips with
    | none => rfl
    | some v =>
      rw [Runs, begin_of_replay found] at runs
      exact absurd (Prod.mk.inj runs).1.symm (begin_ne inner (w.turn key))
  · exact fun due => begin_of_due due inner

instance : Decidable (Runs key skips inner w) :=
  decidable_of_iff _ runs_iff.symm

theorem inTime_of_runEnd {reply : Reply} (ended : p.runEnd limits w = .ofReply reply) :
    ∃ after effects outcome, (p.begin w).2 = .ends after effects outcome ∧
      (∀ ms ∈ limits, after ≤ ms) ∧ p.reply outcome = reply := by
  have told : ∀ other, RunEnd.ofReply other = .ofReply reply → other = reply := by
    intro other same
    cases other <;> cases reply <;> cases same <;> rfl
  unfold runEnd at ended
  split at ended
  · cases reply <;> cases ended
  · rename_i after effects outcome course
    split at ended
    · rename_i inTime
      exact ⟨after, effects, outcome, course, inTime, told _ ended⟩
    · cases reply <;> cases ended

theorem late_of_runEnd (dropped : p.runEnd limits w = .dropped) :
    (p.begin w).2 = .never ∨ ∃ ms ∈ limits, (p.begin w).2.Late ms := by
  unfold runEnd at dropped
  split at dropped
  · rename_i course
    exact .inl course
  · rename_i after effects outcome course
    split at dropped
    · cases reply : p.reply outcome <;> simp [reply, RunEnd.ofReply] at dropped
    · rename_i overdue
      rw [course]
      exact .inr (by simpa using overdue)

end Probe

/-! ### One invocation -/

namespace Session

variable {s t : Session} {place : Place}

theorem exists_check (spares : s.Spares place) {after : Nat} {effects : List Effect}
    {outcome : Outcome} (course : (p.begin s.world).2 = .ends after effects outcome) :
    ∃ t, s.check p = some (t, outcome) ∧ t.world.read place = (p.settled s.world).read place ∧
      t.Spares place :=
  ⟨_, check_of_ends course, safeCheck_spared spares (safeCheck_of_ends course)⟩

variable {v : Verdict}

/-- An invocation that does not run the check inside returns the kept verdict, and changes nothing
but the count. -/
theorem check_of_replay (found : (s.world.cell key).replay? skips = some v) (inner : Probe)
    (limits : List Nat) :
    s.check ((Probe.skip key skips inner).within limits) =
      some ({ s with world := s.world.turn key }, .verdict v) := by
  have begun := Probe.begin_of_replay found inner
  have inTime : ∀ ms ∈ limits, 0 ≤ ms := fun ms _ => Nat.zero_le ms
  obtain ⟨told, ends, same⟩ := Probe.course_within_of_inTime (Probe.guarded_skip key skips inner)
    (congrArg Prod.snd begun) inTime
  rw [same v rfl] at ends
  have within : ((Probe.skip key skips inner).within limits).begin s.world =
      (s.world.turn key, .ends 0 [] (.verdict v)) :=
    Prod.ext (by rw [Probe.begin_within, begun]) ends
  simp [check, launch, within, conclude, Effect.applyAll]

variable (spares : s.Spares (.cell key)) (outside : .cell key ∉ inner.places)
  (runs : inner.Runs key skips s.world)

include spares runs

/-- A run that is not dropped leaves the cell as it would without time limits. -/
theorem exists_check_inTime {reply : Reply}
    (ended : inner.runEnd limits (s.world.turn key) = .ofReply reply) :
    ∃ t told, s.check ((Probe.skip key skips inner).within limits) = some (t, told) ∧
      (∀ v, reply = .verdict v → told = .verdict v) ∧
      t.world.cell key = ((Probe.skip key skips inner).settled s.world).cell key ∧
      ∃ after effects outcome, (inner.begin (s.world.turn key)).2 = .ends after effects outcome ∧
        inner.reply outcome = reply := by
  obtain ⟨after, effects, outcome, ends, inTime, same⟩ := Probe.inTime_of_runEnd ended
  obtain ⟨all, course⟩ : ∃ all, ((Probe.skip key skips inner).begin s.world).2 =
      .ends after all reply.outcome := by
    rw [runs, ends, Course.stored, same]
    cases reply <;> exact ⟨_, rfl⟩
  have guarded := Probe.guarded_skip key skips inner
  obtain ⟨told, within, kept⟩ := Probe.course_within_of_inTime guarded course inTime
  obtain ⟨t, checked, settled, -⟩ := exists_check spares within
  rw [Probe.settled_within_of_inTime guarded course inTime] at settled
  refine ⟨t, told, checked, ?_, Sum.inr.inj settled, after, effects, outcome, ends, same⟩
  rintro v rfl
  exact kept v rfl

include outside

theorem check_of_completed (completed : inner.runEnd limits (s.world.turn key) = .completed v) :
    ∃ t, s.check ((Probe.skip key skips inner).within limits) = some (t, .verdict v) ∧
      t.world.cell key = ⟨(s.world.cell key).turns + 1, some v⟩ := by
  have ended : inner.runEnd limits (s.world.turn key) = .ofReply (.verdict v) := completed
  obtain ⟨t, told, checked, same, settled, after, effects, outcome, ends, reply⟩ :=
    exists_check_inTime spares runs ended
  obtain rfl := same v rfl
  have stored := Probe.cell_settled_due outside (Probe.runs_iff.mp runs) ends reply
  exact ⟨t, checked, settled.trans stored⟩

theorem check_of_died {text : String}
    (died : inner.runEnd limits (s.world.turn key) = .died text) :
    ∃ t outcome, s.check ((Probe.skip key skips inner).within limits) = some (t, outcome) ∧
      t.world.cell key = (s.world.cell key).turn := by
  have ended : inner.runEnd limits (s.world.turn key) = .ofReply (.died text) := died
  obtain ⟨t, told, checked, -, settled, after, effects, outcome, ends, reply⟩ :=
    exists_check_inTime spares runs ended
  have left := Probe.cell_settled_died outside (Probe.runs_iff.mp runs) ends reply
  exact ⟨t, told, checked, settled.trans left⟩

theorem check_of_dropped (dropped : inner.runEnd limits (s.world.turn key) = .dropped)
    (limited : limits ≠ []) :
    ∃ t, s.check ((Probe.skip key skips inner).within limits) = some (t, .verdict .timedOut) ∧
      t.world.cell key = (s.world.cell key).turn := by
  have late : ∃ ms ∈ limits, ((Probe.skip key skips inner).begin s.world).2.Late ms := by
    rw [runs]
    simp only [Course.late_stored]
    rcases Probe.late_of_runEnd dropped with never | late
    · obtain ⟨ms, member⟩ := List.exists_mem_of_ne_nil limits limited
      exact ⟨ms, member, by simp [never]⟩
    · exact late
  have guarded := Probe.guarded_skip key skips inner
  obtain ⟨ms, within⟩ := Probe.course_within_of_late guarded late
  obtain ⟨t, checked, settled, -⟩ := exists_check spares within
  rw [Probe.settled_within_of_late guarded late, runs, Probe.read_begin outside] at settled
  exact ⟨t, checked, (Sum.inr.inj settled).trans (by simp [World.turn])⟩

omit spares outside in
theorem check_of_endless (dropped : inner.runEnd [] (s.world.turn key) = .dropped) :
    s.check (Probe.skip key skips inner) = none := by
  have forever : ((Probe.skip key skips inner).begin s.world).2 = .never := by
    rw [runs]
    rcases Probe.late_of_runEnd dropped with never | ⟨ms, member, -⟩
    · exact congrArg (Course.stored key inner) never
    · cases member
  refine Option.eq_none_iff_forall_ne_some.mpr fun (t, outcome) checked => ?_
  obtain ⟨after, effects, course⟩ := check_course checked
  cases forever.symm.trans course

end Session

/-! ### Invocations in a row -/

structure Invoked where
  limits : List Nat
  /-- The check inside, as it behaves at this invocation. -/
  inner : Probe
  before : Session
  after : Session
  outcome : Outcome

namespace Invoked

def Runs (key : Cell.Key) (skips : Nat) (b : Invoked) : Prop :=
  b.inner.Runs key skips b.before.world

instance (key : Cell.Key) (skips : Nat) (b : Invoked) : Decidable (b.Runs key skips) :=
  inferInstanceAs (Decidable (b.inner.Runs key skips b.before.world))

/-- The verdict of the run that the invocation has begun, if there is one and it completed. -/
def completed? (key : Cell.Key) (skips : Nat) (b : Invoked) : Option Verdict :=
  if b.Runs key skips then
    match b.inner.runEnd b.limits (b.before.world.turn key) with
    | .completed v => some v
    | .dropped | .died _ => none
  else none

def results (key : Cell.Key) (skips : Nat) (log : List Invoked) : List Verdict :=
  log.filterMap (completed? key skips)

/-- What the next invocation does after those of a log. -/
structure Follows (key : Cell.Key) (skips : Nat) (log : List Invoked) (s : Session)
    (limits : List Nat) (inner : Probe) : Prop where
  runs : inner.Runs key skips s.world ↔
    log.length % (skips + 1) = 0 ∨ results key skips log = []
  /-- It returns what the last completed run has returned, and changes nothing but the count. -/
  repeats : ¬inner.Runs key skips s.world → ∃ v, (results key skips log).getLast? = some v ∧
    s.check ((Probe.skip key skips inner).within limits) =
      some ({ s with world := s.world.turn key }, .verdict v)
  completes : inner.Runs key skips s.world →
    ∀ v, inner.runEnd limits (s.world.turn key) = .completed v →
      ∃ t, s.check ((Probe.skip key skips inner).within limits) = some (t, .verdict v) ∧
        t.world.cell key = ⟨log.length + 1, some v⟩
  /-- A run that is dropped is counted and leaves the kept verdict as it was. -/
  drops : inner.Runs key skips s.world →
    inner.runEnd limits (s.world.turn key) = .dropped → limits ≠ [] →
      ∃ t, s.check ((Probe.skip key skips inner).within limits) = some (t, .verdict .timedOut) ∧
        t.world.cell key = (s.world.cell key).turn
  hangs : inner.Runs key skips s.world → inner.runEnd [] (s.world.turn key) = .dropped →
    s.check (Probe.skip key skips inner) = none
  dies : inner.Runs key skips s.world →
    ∀ text, inner.runEnd limits (s.world.turn key) = .died text →
      ∃ t outcome, s.check ((Probe.skip key skips inner).within limits) = some (t, outcome) ∧
        t.world.cell key = (s.world.cell key).turn

/-- The invocation did what comes after those before it. -/
structure Lawful (key : Cell.Key) (skips : Nat) (earlier : List Invoked) (b : Invoked) : Prop where
  follows : Follows key skips earlier b.before b.limits b.inner
  checked : b.before.check ((Probe.skip key skips b.inner).within b.limits) =
    some (b.after, b.outcome)

variable {s t : Session} {log : List Invoked} {b : Invoked}

theorem results_snoc (log : List Invoked) (b : Invoked) :
    results key skips (log ++ [b]) = results key skips log ++ (b.completed? key skips).toList := by
  rw [results, List.filterMap_append, results]
  cases completed : b.completed? key skips <;> simp [completed]

theorem follows (kept : s.world.cell key = ⟨log.length, (results key skips log).getLast?⟩)
    (spares : s.Spares (.cell key)) (outside : .cell key ∉ inner.places) (limits : List Nat) :
    Follows key skips log s limits inner where
  runs := by
    rw [Probe.runs_iff, kept, Cell.replay?]
    split <;> simp [*]
  repeats idle := by
    rw [Probe.runs_iff] at idle
    obtain ⟨v, found⟩ := Option.ne_none_iff_exists'.mp idle
    refine ⟨v, ?_, Session.check_of_replay found inner limits⟩
    rw [kept, Cell.replay?] at found
    split at found
    · cases found
    · exact found
  completes runs v completed := by
    obtain ⟨t, checked, stored⟩ := Session.check_of_completed spares outside runs completed
    exact ⟨t, checked, by rw [stored, kept]⟩
  drops runs dropped limited := Session.check_of_dropped spares outside runs dropped limited
  hangs runs dropped := Session.check_of_endless runs dropped
  dies runs text died := Session.check_of_died spares outside runs died

theorem Lawful.same (lawful : b.Lawful key skips log) {outcome : Outcome}
    (checked : b.before.check ((Probe.skip key skips b.inner).within b.limits) =
      some (t, outcome)) : b.after = t ∧ b.outcome = outcome :=
  Prod.mk.inj (Option.some.inj (lawful.checked.symm.trans checked))

theorem Lawful.kept (lawful : b.Lawful key skips log)
    (before : b.before.world.cell key = ⟨log.length, (results key skips log).getLast?⟩) :
    b.after.world.cell key = ⟨log.length + 1, (results key skips (log ++ [b])).getLast?⟩ := by
  obtain ⟨-, repeats, completes, drops, hangs, dies⟩ := lawful.follows
  have turned : (b.before.world.cell key).turn =
      ⟨log.length + 1, (results key skips log).getLast?⟩ := by
    rw [before, Cell.turn]
  rw [results_snoc]
  by_cases runs : b.inner.Runs key skips b.before.world
  · cases ends : b.inner.runEnd b.limits (b.before.world.turn key) with
    | completed v =>
      obtain ⟨u, checked, stored⟩ := completes runs v ends
      rw [(lawful.same checked).1, stored]
      simp [completed?, Runs, runs, ends]
    | dropped =>
      have limited : b.limits ≠ [] := by
        intro unlimited
        have checked := lawful.checked
        rw [unlimited] at checked ends
        cases (hangs runs ends).symm.trans checked
      obtain ⟨u, checked, left⟩ := drops runs ends limited
      rw [(lawful.same checked).1, left, turned]
      simp [completed?, Runs, runs, ends]
    | died text =>
      obtain ⟨u, told, checked, left⟩ := dies runs text ends
      rw [(lawful.same checked).1, left, turned]
      simp [completed?, Runs, runs, ends]
  · obtain ⟨v, -, checked⟩ := repeats runs
    have idle : b.completed? key skips = none := if_neg runs
    rw [(lawful.same checked).1, idle, Option.toList_none, List.append_nil, ← turned]
    simp [World.turn]

end Invoked

open Invoked (results Follows)

variable {s t : Session} {log : List Invoked}

/-- Invocations that follow one another. In between anything may happen that leaves the cell alone.
-/
inductive Invocations (key : Cell.Key) (skips : Nat) (first : Session) :
    Session → List Invoked → Prop where
  | start : Invocations key skips first first []
  | invoke {s t : Session} {log : List Invoked} {limits : List Nat} {inner : Probe}
      {outcome : Outcome} (earlier : Invocations key skips first s log)
      (outside : .cell key ∉ inner.places)
      (checked : s.check ((Probe.skip key skips inner).within limits) = some (t, outcome)) :
      Invocations key skips first t (log ++ [⟨limits, inner, s, t, outcome⟩])
  | elsewhere {s t : Session} {log : List Invoked} {m : Move} {answer : Answer}
      (earlier : Invocations key skips first s log)
      (outside : ∀ p ∈ m.checks, .cell key ∉ p.places) (moved : s.move? m = some (t, answer)) :
      Invocations key skips first t log

/-- What the session keeps after the invocations of a log, and what each of them did. -/
structure Scheduled (key : Cell.Key) (skips : Nat) (s : Session) (log : List Invoked) : Prop where
  kept : s.world.cell key = ⟨log.length, (results key skips log).getLast?⟩
  spares : s.Spares (.cell key)
  each : ∀ i (b : Invoked), log[i]? = some b → b.Lawful key skips (log.take i)

theorem Scheduled.invoke (scheduled : Scheduled key skips s log)
    (outside : .cell key ∉ inner.places) {outcome : Outcome}
    (checked : s.check ((Probe.skip key skips inner).within limits) = some (t, outcome)) :
    Scheduled key skips t (log ++ [⟨limits, inner, s, t, outcome⟩]) := by
  have lawful : Invoked.Lawful key skips log ⟨limits, inner, s, t, outcome⟩ :=
    ⟨Invoked.follows scheduled.kept scheduled.spares outside limits, checked⟩
  have ended : s.safeCheck ((Probe.skip key skips inner).within limits) = some (t, _) :=
    congrArg (Option.map _) checked
  refine ⟨?_, (Session.safeCheck_spared scheduled.spares ended).2, fun i b present => ?_⟩
  · rw [List.length_append, List.length_singleton]
    exact lawful.kept scheduled.kept
  · rcases getElem?_snoc present with ⟨inside, old⟩ | ⟨rfl, rfl⟩
    · rw [List.take_append_of_le_length (Nat.le_of_lt inside)]
      exact scheduled.each i b old
    · rwa [List.take_left]

theorem Invocations.scheduled {first : Session} (fresh : first.world.cell key = .fresh)
    (spares : first.Spares (.cell key)) (invocations : Invocations key skips first s log) :
    Scheduled key skips s log := by
  induction invocations with
  | start => exact ⟨fresh, spares, by simp⟩
  | invoke earlier outside checked ih => exact ih.invoke outside checked
  | elsewhere earlier outside moved ih =>
    obtain ⟨still, same⟩ := Session.move?_spared outside ih.spares moved
    exact ⟨(Sum.inr.inj same).trans ih.kept, still, ih.each⟩

/-! ### When every run completes -/

theorem succ_ceilDiv (n m : Nat) : (n + 1) ⌈/⌉ (m + 1) = n / (m + 1) + 1 := by
  rw [Nat.ceilDiv_eq_add_pred_div, show n + 1 + (m + 1) - 1 = n + (m + 1) by omega,
    Nat.add_div_right _ (Nat.succ_pos m)]

theorem ceilDiv_of_mod_eq_zero {n m : Nat} (due : n % (m + 1) = 0) :
    n ⌈/⌉ (m + 1) = n / (m + 1) := by
  cases n with
  | zero => simp
  | succ n => rw [succ_ceilDiv, Nat.succ_div_of_dvd (Nat.dvd_of_mod_eq_zero due)]

theorem ceilDiv_of_mod_ne_zero {n m : Nat} (skipped : n % (m + 1) ≠ 0) :
    n ⌈/⌉ (m + 1) = n / (m + 1) + 1 := by
  cases n with
  | zero => simp at skipped
  | succ n =>
    rw [succ_ceilDiv, Nat.succ_div_of_not_dvd fun dvd => skipped (Nat.mod_eq_zero_of_dvd dvd)]

def Unfailing (key : Cell.Key) (skips : Nat) (log : List Invoked) : Prop :=
  ∀ b ∈ log, b.Runs key skips → ∃ v, b.completed? key skips = some v

namespace Invoked.Lawful

variable {b : Invoked}

theorem outcome_of_completed (lawful : b.Lawful key skips log) {v : Verdict}
    (completed : b.completed? key skips = some v) : b.outcome = .verdict v := by
  unfold completed? at completed
  split at completed
  · rename_i runs
    split at completed
    · rename_i u ends
      obtain rfl := Option.some.inj completed
      obtain ⟨t, checked, -⟩ := lawful.follows.completes runs u ends
      exact (lawful.same checked).2
    · cases completed
    · cases completed
  · cases completed

theorem runs_iff (lawful : b.Lawful key skips log)
    (count : (results key skips log).length = log.length ⌈/⌉ (skips + 1)) :
    b.Runs key skips ↔ log.length % (skips + 1) = 0 := by
  refine lawful.follows.runs.trans (or_iff_left_of_imp fun none => ?_)
  -- Nothing has completed, so that nothing was on schedule.
  rw [none, List.length_nil] at count
  by_contra skipped
  rw [ceilDiv_of_mod_ne_zero skipped] at count
  exact absurd count (Nat.succ_ne_zero _).symm

/-- After invocations whose runs have all completed, the next one answers with the last verdict. -/
theorem answers_last (lawful : b.Lawful key skips log)
    (count : (results key skips log).length = log.length ⌈/⌉ (skips + 1))
    (completes : b.Runs key skips → ∃ v, b.completed? key skips = some v) :
    ∃ v, b.outcome = .verdict v ∧
      (results key skips (log ++ [b])).length = log.length / (skips + 1) + 1 ∧
      (results key skips (log ++ [b]))[log.length / (skips + 1)]? = some v := by
  have runs := lawful.runs_iff count
  rw [Invoked.results_snoc]
  by_cases due : log.length % (skips + 1) = 0
  · obtain ⟨v, completed⟩ := completes (runs.mpr due)
    rw [ceilDiv_of_mod_eq_zero due] at count
    refine ⟨v, lawful.outcome_of_completed completed, ?_⟩
    simp [completed, count]
  · have idle : ¬b.Runs key skips := fun begun => due (runs.mp begun)
    obtain ⟨v, kept, checked⟩ := lawful.follows.repeats idle
    have nothing : b.completed? key skips = none := if_neg idle
    rw [ceilDiv_of_mod_ne_zero due] at count
    rw [List.getLast?_eq_getElem?, count, Nat.add_sub_cancel] at kept
    refine ⟨v, (lawful.same checked).2, ?_⟩
    rw [nothing, Option.toList_none, List.append_nil]
    exact ⟨count, kept⟩

end Invoked.Lawful

theorem Unfailing.in_full (unfailing : Unfailing key skips log)
    (each : ∀ i (b : Invoked), log[i]? = some b → b.Lawful key skips (log.take i)) :
    (results key skips log).length = log.length ⌈/⌉ (skips + 1) ∧
      ∀ i b, log[i]? = some b → ∃ v, (results key skips log)[i / (skips + 1)]? = some v ∧
        b.outcome = .verdict v := by
  induction log using List.reverseRecOn with
  | nil => simp [results]
  | append_singleton log b ih =>
    have before : ∀ i (c : Invoked), log[i]? = some c → c.Lawful key skips (log.take i) := by
      intro i c present
      have inside := (List.getElem?_eq_some_iff.mp present).1
      have lawful := each i c (by rwa [List.getElem?_append_left inside])
      rwa [List.take_append_of_le_length (Nat.le_of_lt inside)] at lawful
    obtain ⟨count, earlier⟩ := ih (fun c member => unfailing c (List.mem_append_left _ member)) before
    have lawful : b.Lawful key skips log := by simpa using each log.length b (by simp)
    obtain ⟨v, outcome, total, own⟩ := lawful.answers_last count (unfailing b (by simp))
    refine ⟨?_, fun i c present => ?_⟩
    · rw [total, List.length_append, List.length_singleton, succ_ceilDiv]
    · rcases getElem?_snoc present with ⟨-, old⟩ | ⟨rfl, rfl⟩
      · obtain ⟨u, kept, told⟩ := earlier i c old
        have inside := (List.getElem?_eq_some_iff.mp kept).1
        exact ⟨u, by rw [Invoked.results_snoc, List.getElem?_append_left inside, kept], told⟩
      · exact ⟨v, own, outcome⟩

theorem Unfailing.length_runs (unfailing : Unfailing key skips log) :
    (log.filter (·.Runs key skips)).length = (results key skips log).length := by
  rw [results, List.length_filterMap_eq_countP, ← List.countP_eq_length_filter]
  refine List.countP_congr fun b member => ?_
  rw [decide_eq_true_iff]
  constructor
  · intro runs
    obtain ⟨v, completed⟩ := unfailing b member runs
    simp [completed]
  · intro completed
    by_contra idle
    simp [Invoked.completed?, idle] at completed

/-- Invocations of a skipping check that is new.

* The cell has counted them, and keeps the verdict of the last run that completed.
* Each of them, and any next one, runs the check inside if it is on schedule or if no run has
  completed yet. Otherwise it repeats the kept verdict. A run that is dropped or dies is counted and
  leaves the kept verdict alone.
* If every run completes, `n` invocations run the check inside `⌈n / (skips + 1)⌉` times, and each
  returns the verdict of the last run on schedule. -/
theorem skip_schedule {first : Session} (fresh : first.world.cell key = .fresh)
    (spares : first.Spares (.cell key)) (invocations : Invocations key skips first s log) :
    s.world.cell key = ⟨log.length, (results key skips log).getLast?⟩ ∧
    (∀ i (b : Invoked), log[i]? = some b → b.Lawful key skips (log.take i)) ∧
    (∀ limits inner, .cell key ∉ inner.places → Follows key skips log s limits inner) ∧
    (Unfailing key skips log →
      (log.filter (·.Runs key skips)).length = log.length ⌈/⌉ (skips + 1) ∧
      ∀ i b, log[i]? = some b → ∃ v, (results key skips log)[i / (skips + 1)]? = some v ∧
        b.outcome = .verdict v) := by
  have scheduled := invocations.scheduled fresh spares
  refine ⟨scheduled.kept, scheduled.each, fun limits inner outside => ?_, fun unfailing => ?_⟩
  · exact Invoked.follows scheduled.kept scheduled.spares outside limits
  · obtain ⟨count, told⟩ := unfailing.in_full scheduled.each
    exact ⟨unfailing.length_runs.trans count, told⟩

def steady (act : Act) : Probe :=
  .leaf ⟨"db", fun _ => act, true⟩

/-- In the first history a run is dropped, one dies, one completes with an error, and the fourth
invocation repeats it. In the second one run completes and serves two invocations. -/
theorem skip_schedule_mixed :
    (∃ s log, Invocations ⟨0, "db"⟩ 1 .fresh s log ∧
      s.world.cell ⟨0, "db"⟩ = ⟨4, some (.failed ⟨"down", []⟩)⟩ ∧
      log.getLast?.map (·.outcome) = some (.verdict (.failed ⟨"down", []⟩))) ∧
    ∃ s log, Invocations ⟨0, "db"⟩ 1 .fresh s log ∧ Unfailing ⟨0, "db"⟩ 1 log ∧
      log.length = 2 ∧ (log.filter (·.Runs ⟨0, "db"⟩ 1)).length = 1 := by
  have spares : Session.fresh.Spares (.cell ⟨0, "db"⟩) := ⟨rfl, by simp [Session.fresh]⟩
  have outside : ∀ act, .cell ⟨0, "db"⟩ ∉ (steady act).places := by simp [steady, Probe.places]
  have new : Invocations ⟨0, "db"⟩ 1 .fresh .fresh [] := .start
  obtain ⟨-, -, next, -⟩ := skip_schedule rfl spares new
  constructor
  · have first := next [5] (steady .hang) (outside _)
    obtain ⟨s₁, checked₁, left₁⟩ := first.drops (first.runs.mpr (.inl rfl)) rfl (by simp)
    have one := new.invoke (outside _) checked₁
    -- Nothing is kept, so that the second invocation runs the check inside as well.
    obtain ⟨kept₁, -, next, -⟩ := skip_schedule rfl spares one
    have unset : s₁.world.cell ⟨0, "db"⟩ = ⟨1, none⟩ := left₁
    have empty := List.getLast?_eq_none_iff.mp (Cell.mk.inj (kept₁.symm.trans unset)).2
    have second := next [] (.dying "db" "lost") (by simp [Probe.places])
    obtain ⟨s₂, outcome, checked₂, left₂⟩ := second.dies (second.runs.mpr (.inr empty)) "lost" rfl
    have two := one.invoke (by simp [Probe.places]) checked₂
    obtain ⟨-, -, next, -⟩ := skip_schedule rfl spares two
    have third := next [9, 3] (steady (.finish 3 (.error ⟨"down", []⟩))) (outside _)
    obtain ⟨s₃, checked₃, stored₃⟩ :=
      third.completes (third.runs.mpr (.inl (by simp))) (.failed ⟨"down", []⟩) rfl
    have three := two.invoke (outside _) checked₃
    obtain ⟨kept₃, -, next, -⟩ := skip_schedule rfl spares three
    have last := (Cell.mk.inj (kept₃.symm.trans stored₃)).2
    have fourth := next [] (steady .hang) (outside _)
    obtain ⟨v, same, checked₄⟩ := fourth.repeats fun runs => by
      rcases fourth.runs.mp runs with due | nothing
      · simp at due
      · rw [nothing] at last
        cases last
    obtain rfl := Option.some.inj (same.symm.trans last)
    refine ⟨_, _, three.invoke (outside _) checked₄, ?_, by simp⟩
    simp [World.turn, Cell.turn, stored₃]
  · let calm := steady (.finish 3 (.verdict (.ok "up")))
    have first := next [] calm (outside _)
    have due := first.runs.mpr (.inl rfl)
    obtain ⟨s₁, checked₁, stored₁⟩ := first.completes due (.ok "up") rfl
    have one := new.invoke (outside _) checked₁
    obtain ⟨kept₁, -, next, -⟩ := skip_schedule rfl spares one
    have last := (Cell.mk.inj (kept₁.symm.trans stored₁)).2
    have second := next [] calm (outside _)
    have idle : ¬calm.Runs ⟨0, "db"⟩ 1 s₁.world := by
      intro runs
      rcases second.runs.mp runs with due | nothing
      · simp at due
      · rw [nothing] at last
        cases last
    obtain ⟨v, -, checked₂⟩ := second.repeats idle
    have two := one.invoke (outside _) checked₂
    obtain ⟨-, -, -, full⟩ := skip_schedule rfl spares two
    refine ⟨_, _, two, ?unfailing, rfl, (full ?unfailing).1.trans (succ_ceilDiv 1 1)⟩
    intro b member runs
    rcases List.mem_cons.mp member with rfl | later
    · exact ⟨.ok "up", if_pos due⟩
    · obtain rfl := List.mem_singleton.mp later
      exact absurd runs idle

end HealthWatch
