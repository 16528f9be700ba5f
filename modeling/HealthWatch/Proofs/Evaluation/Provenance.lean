import HealthWatch.Proofs.Evaluation.Moves

/-!
# Where verdicts come from

A check wrapped in decorators answers with a verdict of the check at its `core`: that of the call it
makes now, or that of an earlier call, kept in a cell. Time limits add nothing but a timeout.
`Traced` says so of all that is kept in cells or will be, and every history keeps it.
`failures_contained` draws the conclusion: whatever the core does, decorators answer with verdicts.
-/

namespace HealthWatch

namespace Probe

def core : Probe → Probe
  | .leaf l => .leaf l
  | .dying id text => .dying id text
  | .skip _ _ inner | .limit _ inner => inner.core

/-- The check keeps verdicts only in cells that belong to its core. -/
def OwnedBy (owner : Cell.Key → Probe) (p : Probe) : Prop :=
  ∀ key, .cell key ∈ p.places → owner key = p.core

end Probe

/-- A timeout, or what the protected evaluation of the leaf gives in one of its first calls. -/
def Leaf.Explains (l : Leaf) (calls : Nat) (v : Verdict) : Prop :=
  v = .critical "health check timed out" ∨ ∃ n < calls, ∃ after outcome,
    l.plan n = .finish after outcome ∧ (Probe.leaf l).reply outcome = .verdict v

/-- A verdict that a check around the given core may return by now. A check that dies is never
late. -/
def Sourced (w : World) (v : Verdict) : Probe → Prop
  | .leaf l => l.Explains (w.tally l.id).begun v
  | .dying _ text => v = (Outcome.panic (.text text)).caught
  | .skip _ _ _ | .limit _ _ => False

/-- Every verdict that is kept in a cell, or will be when something in progress ends, has its source
in the check that owns the cell. -/
structure Traced (owner : Cell.Key → Probe) (w : World) (pending : List Pending) : Prop where
  kept : ∀ key v, (w.cell key).stored = some v → Sourced w v (owner key)
  coming : ∀ q ∈ pending, ∀ key v, .stored key v ∈ q.effects → Sourced w v (owner key)

variable {owner : Cell.Key → Probe} {w : World} {p : Probe} {v : Verdict} {key : Cell.Key}

theorem Sourced.mono {w' : World} {core : Probe} (sourced : Sourced w v core)
    (later : ∀ id, (w.tally id).begun ≤ (w'.tally id).begun) : Sourced w' v core := by
  cases core with
  | leaf l =>
    rcases sourced with late | ⟨n, begun, act⟩
    · exact .inl late
    · exact .inr ⟨n, Nat.lt_of_lt_of_le begun (later l.id), act⟩
  | dying _ _ | skip _ _ _ | limit _ _ => exact sourced

/-! ### What a begin and an end leave alone -/

theorem begun_le_begin (p : Probe) (w : World) (id : String) :
    (w.tally id).begun ≤ ((p.begin w).1.tally id).begun := by
  induction p generalizing w with
  | leaf l => simp only [Probe.begin, World.begin]; split <;> simp
  | dying id' text => simp only [Probe.begin, World.begin]; split <;> simp
  | skip key skips inner ih =>
    rw [Probe.begin]
    split
    · exact Nat.le_refl _
    · exact ih (w.turn key)
  | limit ms inner ih => exact ih w

theorem stored_turn (w : World) (key' key : Cell.Key) :
    ((w.turn key').cell key).stored = (w.cell key).stored := by
  simp only [World.turn]; split <;> rfl

theorem stored_begin (p : Probe) (w : World) (key : Cell.Key) :
    ((p.begin w).1.cell key).stored = (w.cell key).stored := by
  induction p generalizing w with
  | leaf l => rfl
  | dying id text => rfl
  | skip key' skips inner ih =>
    rw [Probe.begin]
    split
    · exact stored_turn w key' key
    · exact (ih (w.turn key')).trans (stored_turn w key' key)
  | limit ms inner ih => exact ih w

theorem begun_applyAll (effects : List Effect) (w : World) (id : String) :
    ((Effect.applyAll w effects).tally id).begun = (w.tally id).begun := by
  induction effects generalizing w with
  | nil => rfl
  | cons e rest ih =>
    refine (ih (e.apply w)).trans ?_
    cases e with
    | finished id' => simp only [Effect.apply, World.finish]; split <;> rfl
    | stored key v => rfl
    | overran limit => rfl

theorem stored_applyAll {effects : List Effect}
    (kept : ((Effect.applyAll w effects).cell key).stored = some v) :
    (w.cell key).stored = some v ∨ .stored key v ∈ effects := by
  induction effects generalizing w with
  | nil => exact .inl kept
  | cons e rest ih =>
    rcases ih (w := e.apply w) kept with old | new
    · cases e with
      | stored key' v' =>
        simp only [Effect.apply, World.store] at old
        split at old
        · rename_i same
          obtain rfl := Option.some.inj old
          exact .inr (by simp [same])
        · exact .inl old
      | finished id => exact .inl old
      | overran limit => exact .inl old
    · exact .inr (List.mem_cons_of_mem _ new)

/-! ### What an evaluation answers -/

namespace Probe

/-- A check that dies at once also does so behind decorators, which are then never late. -/
theorem begin_of_dying {id text : String} (dies : p.core = .dying id text) (w : World) :
    ∃ effects outcome, (p.begin w).2 = .ends 0 effects outcome := by
  induction p generalizing w with
  | leaf l => cases dies
  | dying id' text' => exact ⟨_, _, rfl⟩
  | skip key skips inner ih =>
    obtain ⟨effects, outcome, course⟩ := ih dies (w.turn key)
    simp only [begin]
    split
    · exact ⟨_, _, rfl⟩
    · simp only [course, Course.stored]
      split
      · exact ⟨_, _, rfl⟩
      · exact ⟨_, _, rfl⟩
  | limit ms inner ih =>
    obtain ⟨effects, outcome, course⟩ := ih dies w
    exact ⟨effects, (inner.reply outcome).outcome, by simp [begin, course, Course.limited]⟩

/-- The outcome of a check by the time it has begun: leaves end as they do, a check that dies
panics, and so does a decorator right around it; all other decorators give a verdict. -/
def Answers (w : World) (outcome : Outcome) : Probe → Prop
  | .leaf l => Sourced w outcome.caught (.leaf l)
  | .dying _ text => outcome = .panic (.text text)
  | .skip _ _ inner | .limit _ inner =>
    (∃ id text, inner = .dying id text ∧ outcome = .panic (.text text)) ∨
      ∃ v, outcome = .verdict v ∧ Sourced w v inner.core

theorem Answers.sourced {outcome : Outcome} (answers : p.Answers w outcome)
    (protected_ : ∀ id text, p ≠ .dying id text) :
    p.reply outcome = .verdict outcome.caught ∧ Sourced w outcome.caught p.core := by
  cases p with
  | leaf l => exact ⟨rfl, answers⟩
  | dying id text => exact absurd rfl (protected_ id text)
  | skip _ _ inner | limit _ inner =>
    refine ⟨rfl, ?_⟩
    rcases answers with ⟨id, text, rfl, rfl⟩ | ⟨v, rfl, sourced⟩
    · rfl
    · exact sourced

/-- A decorator around a leaf gives a verdict even when nobody protects it. -/
theorem Answers.of_wrapped {l : Leaf} {outcome : Outcome} (answers : p.Answers w outcome)
    (core : p.core = .leaf l) (wrapped : p ≠ .leaf l) :
    ∃ v, outcome = .verdict v ∧ Sourced w v (.leaf l) := by
  cases p with
  | leaf l' => exact absurd core wrapped
  | dying id text => cases core
  | skip _ _ inner | limit _ inner =>
    rcases answers with ⟨id, text, rfl, -⟩ | ⟨v, same, sourced⟩
    · cases core
    · rw [show inner.core = .leaf l from core] at sourced
      exact ⟨v, same, sourced⟩

theorem Answers.around {inner : Probe} {outcome : Outcome} (answers : inner.Answers w outcome) :
    (∃ v, inner.reply outcome = .verdict v ∧ Sourced w v inner.core) ∨
      ∃ id text, inner = .dying id text ∧ inner.reply outcome = .died text := by
  by_cases dies : ∃ id text, inner = .dying id text
  · obtain ⟨id, text, rfl⟩ := dies
    exact .inr ⟨id, text, rfl, rfl⟩
  · have protected_ : ∀ id text, inner ≠ .dying id text := fun id text same =>
      dies ⟨id, text, same⟩
    exact .inl ⟨_, answers.sourced protected_⟩

theorem core_cases (p : Probe) :
    (∃ l, p.core = .leaf l) ∨ ∃ id text, p.core = .dying id text := by
  induction p with
  | leaf l => exact .inl ⟨l, rfl⟩
  | dying id text => exact .inr ⟨id, text, rfl⟩
  | skip key skips inner ih => exact ih
  | limit ms inner ih => exact ih

theorem begin_leaf {l : Leaf} {after : Nat} {effects : List Effect} {outcome : Outcome}
    (course : ((leaf l).begin w).2 = .ends after effects outcome) :
    l.plan (w.tally l.id).begun = .finish after outcome ∧
      (w.tally l.id).begun < (((leaf l).begin w).1.tally l.id).begun ∧
      ∀ key v, .stored key v ∉ effects := by
  have counted : (w.tally l.id).begun < (((leaf l).begin w).1.tally l.id).begun := by
    simp [begin, World.begin]
  simp only [begin] at course
  cases act : l.plan (w.tally l.id).begun with
  | hang => simp [act, Course.ofAct] at course
  | finish after' outcome' =>
    rw [act] at course
    cases outcome' <;>
    · obtain ⟨rfl, rfl, rfl⟩ := Course.ends.inj course
      exact ⟨rfl, counted, by simp⟩

end Probe

/-- What a course answers and stores has its source. -/
def Course.Accounted (owner : Cell.Key → Probe) (w : World) (p : Probe) : Course → Prop
  | .never => True
  | .ends _ effects outcome =>
    p.Answers w outcome ∧ ∀ key v, .stored key v ∈ effects → Sourced w v (owner key)

namespace Course

variable {c : Course} {inner : Probe}

theorem Accounted.stored (accounted : c.Accounted owner w inner) (ours : owner key = inner.core)
    (skips : Nat) : (c.stored key inner).Accounted owner w (.skip key skips inner) := by
  cases c with
  | never => trivial
  | ends after effects outcome =>
    obtain ⟨answers, written⟩ := accounted
    rcases answers.around with ⟨v, reply, sourced⟩ | ⟨id, text, rfl, reply⟩
    · simp only [Course.stored, reply]
      refine ⟨.inr ⟨v, rfl, sourced⟩, fun other u member => ?_⟩
      rcases List.mem_append.mp member with old | new
      · exact written other u old
      · obtain ⟨rfl, rfl⟩ : other = key ∧ u = v := by simpa using new
        exact ours ▸ sourced
    · simp only [Course.stored, reply]
      exact ⟨.inl ⟨id, text, rfl, rfl⟩, written⟩

theorem Accounted.limited {ms : Nat} (accounted : c.Accounted owner w inner)
    (late : c.after?.any (· ≤ ms) = false → Sourced w .timedOut inner.core) :
    (c.limited ms inner).Accounted owner w (.limit ms inner) := by
  have overran : c.after?.any (· ≤ ms) = false →
      Accounted owner w (.limit ms inner) (.ends ms [.overran ms] (.verdict .timedOut)) :=
    fun unfinished => ⟨.inr ⟨.timedOut, rfl, late unfinished⟩, by simp⟩
  cases c with
  | never => exact overran rfl
  | ends after effects outcome =>
    obtain ⟨answers, written⟩ := accounted
    rw [Course.limited]
    split
    · refine ⟨?_, written⟩
      rcases answers.around with ⟨v, reply, sourced⟩ | ⟨id, text, rfl, reply⟩
      · exact .inr ⟨v, by rw [reply]; rfl, sourced⟩
      · exact .inl ⟨id, text, rfl, by rw [reply]; rfl⟩
    · rename_i behind
      exact overran (by simp [after?, behind])

end Course

namespace Probe

/-- Where all that is kept has its source, so has all that an evaluation answers and stores. -/
theorem begin_accounted (owned : p.OwnedBy owner)
    (kept : ∀ key v, (w.cell key).stored = some v → Sourced w v (owner key)) :
    (p.begin w).2.Accounted owner (p.begin w).1 p := by
  induction p generalizing w with
  | leaf l =>
    cases course : ((leaf l).begin w).2 with
    | never => trivial
    | ends after effects outcome =>
      obtain ⟨act, counted, silent⟩ := begin_leaf course
      exact ⟨.inr ⟨_, counted, after, outcome, act, rfl⟩, fun key v member =>
        absurd member (silent key v)⟩
  | dying id text => exact ⟨rfl, by simp⟩
  | skip cell skips inner ih =>
    have ours : owner cell = inner.core := owned cell List.mem_cons_self
    have inside : inner.OwnedBy owner := fun key member => owned key (List.mem_cons_of_mem _ member)
    have turned : ∀ key v, ((w.turn cell).cell key).stored = some v →
        Sourced (w.turn cell) v (owner key) := by
      intro key v stored
      exact (kept key v (stored_turn w cell key ▸ stored)).mono fun _ => Nat.le_refl _
    cases found : (w.cell cell).replay? skips with
    | some v =>
      have stored : ((w.turn cell).cell cell).stored = some v := by
        unfold Cell.replay? at found
        split at found
        · cases found
        · exact (stored_turn w cell cell).trans found
      rw [begin_of_replay found]
      exact ⟨.inr ⟨v, rfl, ours ▸ turned cell v stored⟩, by simp⟩
    | none =>
      rw [begin_of_due found]
      exact (ih inside turned).stored ours skips
  | limit ms inner ih =>
    refine (ih owned kept).limited fun late => ?_
    rcases inner.core_cases with ⟨l, core⟩ | ⟨id, text, core⟩
    · exact core ▸ .inl rfl
    · -- A check that dies does so at once, before any limit.
      obtain ⟨_, _, atOnce⟩ := begin_of_dying core w
      simp [atOnce, Course.after?] at late

end Probe

/-! ### Every history -/

theorem traced_fresh : Traced owner .fresh [] :=
  ⟨fun _ _ kept => (nomatch kept), by simp⟩

theorem stable_traced (owner : Cell.Key → Probe) :
    Stable (Probe.OwnedBy owner) (Traced owner) where
  begin := by
    intro p w pending due owned traced
    have later := begun_le_begin p w
    refine ⟨fun key v kept => ?_, fun q member key v stored => ?_⟩
    · rw [stored_begin] at kept
      exact (traced.kept key v kept).mono later
    · rcases List.mem_append.mp member with old | new
      · exact (traced.coming q old key v stored).mono later
      · obtain rfl := List.mem_singleton.mp new
        cases course : (p.begin w).2 with
        | never => simp [course, Course.effects] at stored
        | ends after effects outcome =>
          have accounted := Probe.begin_accounted owned traced.kept
          rw [course] at accounted stored
          exact accounted.2 key v stored
  conclude := by
    intro w pending q member traced
    have later : ∀ id, (w.tally id).begun ≤ ((Effect.applyAll w q.effects).tally id).begun :=
      fun id => Nat.le_of_eq (begun_applyAll q.effects w id).symm
    refine ⟨fun key v kept => ?_, fun q' other key v stored => ?_⟩
    · rcases stored_applyAll kept with old | new
      · exact (traced.kept key v old).mono later
      · exact (traced.coming q member key v new).mono later
    · exact (traced.coming q' other key v stored).mono later
  drop := fun inside traced => ⟨traced.kept, fun q member => traced.coming q (inside member)⟩
  switch := fun _ _ traced =>
    ⟨fun key v kept => (traced.kept key v kept).mono fun _ => Nat.le_refl _,
      fun q member key v stored => (traced.coming q member key v stored).mono fun _ => Nat.le_refl _⟩

namespace Session

variable {s t : Session} {h : List Move} {answers : List Answer}

theorem check_course {outcome : Outcome} (ended : s.check p = some (t, outcome)) :
    ∃ after effects, (p.begin s.world).2 = .ends after effects outcome := by
  have course := s.launch_course p
  unfold check at ended
  split at ended
  · cases ended
  · rename_i u after effects outcome' launched
    obtain ⟨-, rfl⟩ := Prod.mk.inj (Option.some.inj ended)
    rw [launched] at course
    exact ⟨after, effects, course.symm⟩

theorem answers_of_check (traced : Traced owner s.world s.pending) (owned : p.OwnedBy owner)
    {outcome : Outcome} (ended : s.check p = some (t, outcome)) :
    p.Answers (p.begin s.world).1 outcome := by
  obtain ⟨after, effects, course⟩ := check_course ended
  have accounted := Probe.begin_accounted owned traced.kept
  rw [course] at accounted
  exact accounted.1

/-- After any history of checks that keep verdicts only in cells of their own:

* a check around a leaf answers, if it ever does, with a verdict, which is a timeout or that of the
  leaf's own protected evaluation, of the call made now or of an earlier one; with a decorator
  around the leaf the unprotected evaluation gives such a verdict as well;
* a check around one that dies always answers, and tells of the panic;
* the leaf's own evaluation passes a verdict on and turns an error or a panic into a critical
  verdict that tells all of it. -/
theorem failures_contained (played : Session.fresh.play? h = some (s, answers))
    (apart : ∀ m ∈ h, ∀ q ∈ m.checks, q.OwnedBy owner) (owned : p.OwnedBy owner) :
    (∀ l, p.core = .leaf l →
      (∀ t reply, s.safeCheck p = some (t, reply) → ∃ v, reply = .verdict v ∧
        l.Explains ((p.begin s.world).1.tally l.id).begun v) ∧
      (p ≠ .leaf l → ∀ t outcome, s.check p = some (t, outcome) → ∃ v, outcome = .verdict v ∧
        l.Explains ((p.begin s.world).1.tally l.id).begun v)) ∧
    (∀ id text, p.core = .dying id text → p ≠ .dying id text →
      ∃ t v, s.safeCheck p = some (t, .verdict v) ∧ v.status = .critical ∧
        v.message? = some ("health check panicked: " ++ text)) ∧
    (∀ l : Leaf,
      (∀ v, (Probe.leaf l).reply (.verdict v) = .verdict v) ∧
      (∀ cause, ∃ v, (Probe.leaf l).reply (.error cause) = .verdict v ∧ v.status = .critical ∧
        v.cause = some cause ∧
        v.message? = some (": ".intercalate (cause.contexts.reverse ++ [cause.root]))) ∧
      (∀ payload, ∃ v, (Probe.leaf l).reply (.panic payload) = .verdict v ∧
        v.status = .critical ∧ v.message? = some ("health check panicked: " ++
          match payload with
          | .text told => told
          | .other => "non-string panic payload"))) := by
  have traced : Traced owner s.world s.pending :=
    ((stable_traced owner).play apart ⟨traced_fresh, by simp [fresh]⟩ played).now
  refine ⟨fun l core => ⟨fun t reply ended => ?_, fun wrapped t outcome ended => ?_⟩,
    fun id text core wrapped => ?_, fun l => ⟨fun v => rfl, fun cause => ?_, fun payload => ?_⟩⟩
  · obtain ⟨⟨u, outcome⟩, checked, same⟩ := Option.map_eq_some_iff.mp ended
    obtain ⟨-, rfl⟩ := Prod.mk.inj same
    have protected_ : ∀ id text, p ≠ .dying id text := by
      rintro id text rfl
      cases core
    obtain ⟨replied, sourced⟩ := (answers_of_check traced owned checked).sourced protected_
    rw [core] at sourced
    exact ⟨_, replied, sourced⟩
  · exact (answers_of_check traced owned ended).of_wrapped core wrapped
  · obtain ⟨effects, outcome, course⟩ := p.begin_of_dying core s.world
    have protected_ : ∀ id text, p ≠ .dying id text := by
      rintro id' text' rfl
      exact wrapped core
    have ended : s.safeCheck p = some ((s.launch p).1, p.reply outcome) := by
      simp [safeCheck_eq, course]
    have accounted := Probe.begin_accounted owned traced.kept
    rw [course] at accounted
    obtain ⟨replied, sourced⟩ := accounted.1.sourced protected_
    rw [core] at sourced
    rw [replied, sourced] at ended
    exact ⟨_, _, ended, rfl, rfl⟩
  · exact ⟨.failed cause, rfl, rfl, rfl, rfl⟩
  · cases payload with
    | text told => exact ⟨_, rfl, rfl, rfl⟩
    | other => exact ⟨_, rfl, rfl, rfl⟩

def failing : Leaf :=
  ⟨"db", fun
    | 0 => .finish 5 (.error ⟨"refused", ["login"]⟩)
    | 1 => .finish 5 (.panic .other)
    | _ => .hang, true⟩

/-- Runs the leaf every other time, and gives it ten milliseconds. -/
def guarding : Probe :=
  .skip ⟨0, "db"⟩ 1 (.limit 10 (.leaf failing))

theorem failures_contained_failing :
    ∃ s answers, fresh.play? [.safeCheck guarding, .safeCheck guarding, .safeCheck guarding] =
        some (s, answers) ∧
      (∀ t reply, s.safeCheck guarding = some (t, reply) → ∃ v, reply = .verdict v ∧
        failing.Explains ((guarding.begin s.world).1.tally "db").begun v) ∧
      ∃ t v, s.safeCheck (.limit 3 (.dying "d" "boom")) = some (t, .verdict v) ∧
        v.message? = some "health check panicked: boom" := by
  have owned : guarding.OwnedBy fun _ => .leaf failing := fun _ _ => rfl
  have apart : ∀ m ∈ [Move.safeCheck guarding, .safeCheck guarding, .safeCheck guarding],
      ∀ q ∈ m.checks, q.OwnedBy fun _ => .leaf failing := by
    simp [Move.checks, owned]
  have dying : (Probe.limit 3 (.dying "d" "boom")).OwnedBy fun _ => .leaf failing := by
    simp [Probe.OwnedBy, Probe.places]
  have ends : (fresh.play?
      [.safeCheck guarding, .safeCheck guarding, .safeCheck guarding]).isSome := by decide +kernel
  obtain ⟨⟨s, answers⟩, played⟩ := Option.isSome_iff_exists.mp ends
  obtain ⟨stack, -, -⟩ := failures_contained played apart owned
  obtain ⟨-, dies, -⟩ := failures_contained played apart dying
  obtain ⟨t, v, ended, -, told⟩ := dies "d" "boom" rfl (by simp)
  exact ⟨s, answers, played, (stack failing rfl).1, t, v, ended, told⟩

end Session

end HealthWatch
