import HealthWatch.Proofs.Skipping.Veil

/-!
# Checks that differ behind a veil

Two sessions that look alike from before a veil, and two checks that do the same to what can be seen
of them. If what is behind the veil is kept in step by each evaluation of the two checks, then all
evaluations give the same replies and leave sessions that look alike (`Paired.safeCheck`), alone, in
serial rounds (`Paired.runFrom`) and among moves that have nothing to do with what is hidden
(`Paired.move?`).
-/

namespace HealthWatch

variable {hidden : Cell.Key → Bool} {kept later : World → World → Prop} {p q : Probe}
  {s t : Session}

/-- Whether it holds of two worlds depends on their hidden cells only. -/
def Behind (hidden : Cell.Key → Bool) (kept : World → World → Prop) : Prop :=
  ∀ {u v w w' : World}, (∀ key, hidden key = true → w.cell key = u.cell key) →
    (∀ key, hidden key = true → w'.cell key = v.cell key) → kept u v → kept w w'

/-- Two checks that do the same to what can be seen. An evaluation of both leads from what is kept
to what is kept later. -/
structure Probe.Twins (hidden : Cell.Key → Bool) (kept later : World → World → Prop) (p q : Probe) :
    Prop where
  reply : ∀ outcome, p.reply outcome = q.reply outcome
  isActive : ∀ w, p.isActive w = q.isActive w
  begin : ∀ {w w' : World}, w.veil hidden = w'.veil hidden → kept w w' →
    (p.begin w).1.veil hidden = (q.begin w').1.veil hidden ∧
      (p.begin w).2.veil hidden = (q.begin w').2.veil hidden
  settled : ∀ {w w' : World}, w.veil hidden = w'.veil hidden → kept w w' →
    (p.begin w).2 ≠ .never → later (p.settled w) (q.settled w')

/-- Two sessions that look alike. Nothing in progress has to do with the hidden cells. -/
structure Session.Paired (hidden : Cell.Key → Bool) (kept : World → World → Prop) (s t : Session) :
    Prop where
  veiled : s.veil hidden = t.veil hidden
  kept : kept s.world t.world
  spares : ∀ key, hidden key = true → s.Spares (.cell key) ∧ t.Spares (.cell key)

/-- Both never end, or both end with the same answer in sessions that look alike. -/
def EndAlike {α : Type} (hidden : Cell.Key → Bool) (kept : World → World → Prop) :
    Option (Session × α) → Option (Session × α) → Prop :=
  Option.Rel fun a b => a.1.Paired hidden kept b.1 ∧ a.2 = b.2

theorem EndAlike.map {α β : Type} {a b : Option (Session × α)} (alike : EndAlike hidden kept a b)
    (f : α → β) :
    EndAlike hidden kept (a.map fun r => (r.1, f r.2)) (b.map fun r => (r.1, f r.2)) := by
  cases alike with
  | none => exact .none
  | some same => exact .some ⟨same.1, congrArg f same.2⟩

/-- From before the veil, the two are equal. -/
theorem EndAlike.veiled {α : Type} {a b : Option (Session × α)} (alike : EndAlike hidden kept a b) :
    (a.map fun r => (r.1.veil hidden, r.2)) = b.map fun r => (r.1.veil hidden, r.2) := by
  cases alike with
  | none => rfl
  | some same => exact congrArg some (Prod.ext same.1.veiled same.2)

theorem Course.ends_of_veil {c : Course} {after : Nat} {effects : List Effect} {outcome : Outcome}
    (veiled : c.veil hidden = (Course.ends after effects outcome).veil hidden) :
    ∃ own, c = .ends after own outcome ∧
      own.filter (Effect.shows hidden) = effects.filter (Effect.shows hidden) := by
  cases c with
  | never => cases veiled
  | ends time own result =>
    obtain ⟨rfl, same, rfl⟩ := Course.ends.inj veiled
    exact ⟨own, rfl, same⟩

namespace Session.Paired

theorem clear (paired : s.Paired hidden kept t) :
    (∀ q ∈ s.queued, q.Clear (hidden ·)) ∧ ∀ q ∈ t.queued, q.Clear (hidden ·) :=
  ⟨fun q member key inside covered => (paired.spares key covered).1.queued q member inside,
    fun q member key inside covered => (paired.spares key covered).2.queued q member inside⟩

theorem world (paired : s.Paired hidden kept t) : s.world.veil hidden = t.world.veil hidden :=
  congrArg Session.world paired.veiled

theorem off (paired : s.Paired hidden kept t) : s.world.off = t.world.off := by
  have seen := congrArg (fun u : Session => u.world.off) paired.veiled
  exact seen

/-! ### One evaluation -/

theorem safeCheck (paired : s.Paired hidden kept t) (behind : Behind hidden later)
    (twins : p.Twins hidden kept later q) :
    EndAlike hidden later (s.safeCheck p) (t.safeCheck q) := by
  obtain ⟨worlds, courses⟩ := twins.begin paired.world paired.kept
  cases course' : (q.begin t.world).2 with
  | never =>
    have course : (p.begin s.world).2 = .never := by
      rw [course'] at courses
      cases course : (p.begin s.world).2 with
      | never => rfl
      | ends after effects outcome => rw [course] at courses; cases courses
    rw [safeCheck_of_never course, safeCheck_of_never course']
    exact .none
  | ends after effects' outcome =>
    rw [course'] at courses
    obtain ⟨effects, course, shown⟩ := Course.ends_of_veil courses
    have ended := safeCheck_of_ends course
    have ended' := safeCheck_of_ends course'
    have spared := fun key covered => safeCheck_spared (paired.spares key covered).1 ended
    have spared' := fun key covered => safeCheck_spared (paired.spares key covered).2 ended'
    have settled := twins.settled paired.world paired.kept (by simp [course])
    rw [ended, ended']
    refine .some ⟨⟨?_, ?_, fun key covered => ⟨(spared key covered).2, (spared' key covered).2⟩⟩,
      twins.reply outcome⟩
    · rw [waited_veil paired.clear.1, waited_veil paired.clear.2, paired.veiled, worlds, shown]
    · -- While the check ran, nothing else came to the hidden cells.
      exact behind (fun key covered => Sum.inr.inj (spared key covered).1)
        (fun key covered => Sum.inr.inj (spared' key covered).1) settled

/-- What has no hidden cell does the same in both sessions. -/
theorem move? (paired : s.Paired hidden kept t) (behind : Behind hidden kept) {m : Move}
    (ours : ∀ p ∈ m.checks, p.Clear (hidden ·)) :
    EndAlike hidden kept (s.move? m) (t.move? m) := by
  have same : (s.move? m).map (fun a => (a.1.veil hidden, a.2)) =
      (t.move? m).map fun a => (a.1.veil hidden, a.2) := by
    rw [← move?_veil ours paired.clear.1, ← move?_veil ours paired.clear.2, paired.veiled]
  have outside : ∀ key, hidden key = true → ∀ p ∈ m.checks, .cell key ∉ p.places :=
    fun key covered p member inside => ours p member key inside covered
  cases moved : s.move? m with
  | none =>
    cases moved' : t.move? m with
    | none => exact .none
    | some b => simp [moved, moved'] at same
  | some a =>
    cases moved' : t.move? m with
    | none => simp [moved, moved'] at same
    | some b =>
      rw [moved, moved'] at same
      obtain ⟨veiled, answer⟩ := Prod.mk.inj (Option.some.inj same)
      have spared := fun key covered =>
        move?_spared (outside key covered) (paired.spares key covered).1 moved
      have spared' := fun key covered =>
        move?_spared (outside key covered) (paired.spares key covered).2 moved'
      refine .some ⟨⟨veiled, ?_, fun key covered =>
        ⟨(spared key covered).1, (spared' key covered).1⟩⟩, answer⟩
      exact behind (fun key covered => Sum.inr.inj (spared key covered).2)
        (fun key covered => Sum.inr.inj (spared' key covered).2) paired.kept

end Session.Paired

/-! ### Serial rounds -/

/-- Under each name there are twins. -/
def TwinChecks (hidden : Cell.Key → Bool) (kept : World → World → Prop) :
    List (String × Probe) → List (String × Probe) → Prop :=
  List.Forall₂ fun e f => e.1 = f.1 ∧ e.2.Twins hidden kept kept f.2

variable {all all' : List (String × Probe)} {r r' : Roster}

theorem TwinChecks.lookup (twins : TwinChecks hidden kept all all') (name : String) :
    Option.Rel (fun p q : Probe => p.Twins hidden kept kept q) (all.lookup name)
      (all'.lookup name) := by
  induction twins with
  | nil => exact .none
  | @cons e f rest rest' same _ ih =>
    obtain ⟨called, p⟩ := e
    obtain ⟨called', q⟩ := f
    obtain ⟨rfl, twins⟩ := same
    rw [List.lookup_cons, List.lookup_cons]
    cases name == called with
    | true => exact .some twins
    | false => exact ih

namespace Session.Paired

theorem runFrom (paired : s.Paired hidden kept t) (behind : Behind hidden kept)
    (twins : TwinChecks hidden kept all all') (acc : Results) :
    EndAlike hidden kept (Roster.runFrom s acc all) (Roster.runFrom t acc all') := by
  induction twins generalizing s t acc with
  | nil => exact .some ⟨paired, rfl⟩
  | @cons e f rest rest' same _ ih =>
    obtain ⟨name, p⟩ := e
    obtain ⟨name', q⟩ := f
    obtain ⟨rfl, twins⟩ := same
    have active : p.isActive s.world = q.isActive t.world :=
      (twins.isActive s.world).trans (q.isActive_congr paired.off)
    have told := paired.safeCheck behind twins
    rw [Roster.runFrom, Roster.runFrom, active]
    split
    · generalize s.safeCheck p = a at told ⊢
      generalize t.safeCheck q = b at told ⊢
      cases told with
      | none => exact .none
      | @some a b same =>
        obtain ⟨u, reply⟩ := a
        obtain ⟨v, reply'⟩ := b
        obtain ⟨next, rfl⟩ := same
        cases reply with
        | verdict told => exact ih next _
        | died text => exact .some ⟨next, rfl⟩
    · exact ih paired acc

theorem runOne (paired : s.Paired hidden kept t) (behind : Behind hidden kept)
    (twins : TwinChecks hidden kept r.checks.entries r'.checks.entries) (name : String) :
    EndAlike hidden kept (r.runOne s name) (r'.runOne t name) := by
  have found : Option.Rel _ (r.get? name) (r'.get? name) := twins.lookup name
  unfold Roster.runOne
  generalize r.get? name = a at found ⊢
  generalize r'.get? name = b at found ⊢
  cases found with
  | none => exact .some ⟨paired, rfl⟩
  | some twins => exact (paired.safeCheck behind twins).map Except.ok

end Session.Paired

/-- A round of the checks one after another, or an evaluation of a single one. -/
def Evaluation.Serial : Evaluation → Prop
  | .run | .runOne _ => True
  | .fanOut _ _ | .fanOutCut _ _ _ => False

theorem Session.Paired.evaluate? (paired : s.Paired hidden kept t) (behind : Behind hidden kept)
    (twins : TwinChecks hidden kept r.checks.entries r'.checks.entries) {e : Evaluation}
    (serial : e.Serial) : EndAlike hidden kept (r.evaluate? s e) (r'.evaluate? t e) := by
  cases e with
  | run => exact (paired.runFrom behind twins .empty).map Answer.round
  | runOne name => exact (paired.runOne behind twins name).map Answer.reply
  | fanOut workers timeout => exact serial.elim
  | fanOutCut workers timeout time => exact serial.elim

/-! ### Histories -/

/-- Two histories go on alike if they begin alike. -/
theorem EndAlike.play?_cons {now : World → World → Prop} {m m' : Move} {h h' : List Move}
    (first : EndAlike hidden now (s.move? m) (t.move? m'))
    (rest : ∀ {u v : Session}, u.Paired hidden now v →
      EndAlike hidden later (u.play? h) (v.play? h')) :
    EndAlike hidden later (s.play? (m :: h)) (t.play? (m' :: h')) := by
  rw [Session.play?, Session.play?]
  generalize s.move? m = a at first ⊢
  generalize t.move? m' = b at first ⊢
  cases first with
  | none => exact .none
  | @some a b same =>
    obtain ⟨u, answer⟩ := a
    obtain ⟨v, answer'⟩ := b
    obtain ⟨next, rfl⟩ := same
    exact (rest next).map (answer :: ·)

end HealthWatch
