import HealthWatch.Proofs.Evaluation.Translation

/-!
# Cells by other names

What a check does depends on what its cells hold and not on which cells they are. A `Renaming`
exchanges cells; `play?_rename` says that a history with other cells, in a session with the cells
exchanged alike, gives the same answers and leaves the same behind.
-/

namespace HealthWatch

structure Renaming where
  swap : Cell.Key → Cell.Key
  back : ∀ key, swap (swap key) = key

namespace Renaming

theorem eq_swap_iff (σ : Renaming) {k key : Cell.Key} : k = σ.swap key ↔ σ.swap k = key :=
  ⟨fun same => same ▸ σ.back key, fun same => same ▸ (σ.back k).symm⟩

/-- Exchanges two series name by name. -/
def series (one two : Nat) : Renaming where
  swap key :=
    if key.series = one then ⟨two, key.name⟩
    else if key.series = two then ⟨one, key.name⟩ else key
  back key := by
    obtain ⟨number, name⟩ := key
    by_cases first : number = one
    · by_cases same : two = one <;> simp [first, same]
    · by_cases second : number = two
      · have different : two ≠ one := second ▸ first
        simp [second, different]
      · simp [first, second]

theorem swap_series {one two : Nat} {key : Cell.Key} (first : key.series ≠ one)
    (second : key.series ≠ two) : (series one two).swap key = key := by
  simp [series, first, second]

end Renaming

/-! ### What carries cells -/

def Probe.rename (σ : Renaming) : Probe → Probe
  | .leaf l => .leaf l
  | .dying id text => .dying id text
  | .skip key skips inner => .skip (σ.swap key) skips (inner.rename σ)
  | .limit ms inner => .limit ms (inner.rename σ)

def Effect.rename (σ : Renaming) : Effect → Effect
  | .finished id => .finished id
  | .stored key v => .stored (σ.swap key) v
  | .overran limit => .overran limit

def Course.rename (σ : Renaming) : Course → Course
  | .never => .never
  | .ends after effects outcome => .ends after (effects.map (Effect.rename σ)) outcome

def World.rename (σ : Renaming) (w : World) : World :=
  { w with cell := fun key => w.cell (σ.swap key) }

def Pending.rename (σ : Renaming) (q : Pending) : Pending :=
  ⟨q.due, q.effects.map (Effect.rename σ)⟩

def Session.rename (σ : Renaming) (s : Session) : Session where
  now := s.now
  world := s.world.rename σ
  pending := s.pending.map (Pending.rename σ)
  queued := s.queued.map (Probe.rename σ)
  reports := s.reports

def Roster.rename (σ : Renaming) (r : Roster) : Roster :=
  ⟨r.checks.map fun _ p => p.rename σ⟩

def Move.rename (σ : Renaming) : Move → Move
  | .begin p => .begin (p.rename σ)
  | .check p => .check (p.rename σ)
  | .safeCheck p => .safeCheck (p.rename σ)
  | .evaluate r e => .evaluate (r.rename σ) e
  | .switch id on => .switch id on
  | .shutdown workers => .shutdown workers
  | .advance ms => .advance ms

variable (σ : Renaming)

/-! ### Worlds -/

namespace World

variable (w : World)

@[simp] theorem tally_rename : (w.rename σ).tally = w.tally := rfl
@[simp] theorem off_rename : (w.rename σ).off = w.off := rfl
@[simp] theorem begin_rename (id : String) : (w.rename σ).begin id = (w.begin id).rename σ := rfl
@[simp] theorem finish_rename (id : String) : (w.rename σ).finish id = (w.finish id).rename σ := rfl
@[simp] theorem switch_rename (id : String) (on : Bool) :
    (w.rename σ).switch id on = (w.switch id on).rename σ := rfl

@[simp] theorem cell_rename (key : Cell.Key) : (w.rename σ).cell (σ.swap key) = w.cell key := by
  simp [rename, σ.back]

@[simp] theorem turn_rename (key : Cell.Key) :
    (w.rename σ).turn (σ.swap key) = (w.turn key).rename σ := by
  simp [rename, turn, σ.eq_swap_iff]

@[simp] theorem store_rename (key : Cell.Key) (v : Verdict) :
    (w.rename σ).store (σ.swap key) v = (w.store key v).rename σ := by
  simp [rename, store, σ.eq_swap_iff]

end World

/-! ### One evaluation -/

namespace Effect

@[simp] theorem event?_rename (e : Effect) : (e.rename σ).event? = e.event? := by
  cases e <;> rfl

@[simp] theorem apply_rename (e : Effect) (w : World) :
    (e.rename σ).apply (w.rename σ) = (e.apply w).rename σ := by
  cases e <;> simp [rename, apply]

@[simp] theorem applyAll_rename (effects : List Effect) (w : World) :
    applyAll (w.rename σ) (effects.map (rename σ)) = (applyAll w effects).rename σ := by
  induction effects generalizing w with
  | nil => rfl
  | cons e rest ih => simpa [applyAll] using ih (e.apply w)

end Effect

namespace Probe

variable (p : Probe)

@[simp] theorem reply_rename (outcome : Outcome) : (p.rename σ).reply outcome = p.reply outcome := by
  cases p <;> rfl

@[simp] theorem isActive_rename (w : World) : (p.rename σ).isActive (w.rename σ) = p.isActive w := by
  induction p with
  | leaf l => rfl
  | dying id text => rfl
  | skip key skips inner ih => exact ih
  | limit ms inner ih => exact ih

end Probe

namespace Course

variable (c : Course)

theorem stored_rename (key : Cell.Key) (inner : Probe) :
    (c.rename σ).stored (σ.swap key) (inner.rename σ) = (c.stored key inner).rename σ := by
  cases c with
  | never => rfl
  | ends after effects outcome =>
    simp only [rename, stored, Probe.reply_rename]
    split <;> simp [Effect.rename]

theorem limited_rename (ms : Nat) (inner : Probe) :
    (c.rename σ).limited ms (inner.rename σ) = (c.limited ms inner).rename σ := by
  cases c with
  | never => rfl
  | ends after effects outcome =>
    simp only [rename, limited, Probe.reply_rename]
    split <;> rfl

end Course

theorem Probe.begin_rename (p : Probe) (w : World) :
    (p.rename σ).begin (w.rename σ) = ((p.begin w).1.rename σ, (p.begin w).2.rename σ) := by
  induction p generalizing w with
  | leaf l =>
    refine Prod.ext rfl ?_
    simp only [rename, begin, World.tally_rename]
    rcases l.plan (w.tally l.id).begun with ⟨after, _ | _ | _⟩ | _ <;> rfl
  | dying id text => rfl
  | skip key skips inner ih =>
    simp only [rename, begin, World.cell_rename, World.turn_rename, ih, Course.stored_rename]
    split <;> rfl
  | limit ms inner ih => simp only [rename, begin, ih, Course.limited_rename]

/-! ### Histories -/

theorem Course.rename_eq_mapEffects (c : Course) :
    c.rename σ = c.mapEffects (List.map (Effect.rename σ)) := by
  cases c <;> rfl

/-- To exchange cells is a translation, whatever the checks. -/
def Renaming.translation : Translation where
  allowed := fun _ => True
  probe := Probe.rename σ
  world := World.rename σ
  effects := List.map (Effect.rename σ)
  begin := fun {p} _ w => by rw [p.begin_rename, Course.rename_eq_mapEffects]
  applyAll := Effect.applyAll_rename σ
  events := fun ended => by
    rw [List.filterMap_map]
    exact congrArg (List.filterMap · ended) (funext (Effect.event?_rename σ))
  reply := Probe.reply_rename σ
  isActive := Probe.isActive_rename σ
  switch := fun _ _ _ => rfl

theorem Session.play?_rename (s : Session) (h : List Move) :
    (s.rename σ).play? (h.map (Move.rename σ)) =
      (s.play? h).map fun a => (a.1.rename σ, a.2) := by
  have moves : Move.rename σ = σ.translation.move := funext fun m => by cases m <;> rfl
  rw [moves]
  exact Translation.play? (T := σ.translation) (fun _ _ _ _ => trivial)
    ⟨trivial, fun _ _ => trivial⟩

/-! ### What has no cell of two series -/

section Series

variable {one two : Nat}

theorem Probe.rename_series {p : Probe} (first : p.Avoids one) (second : p.Avoids two) :
    p.rename (.series one two) = p := by
  induction p with
  | leaf l => rfl
  | dying id text => rfl
  | skip key skips inner ih =>
    obtain ⟨different, first⟩ := avoids_skip_iff.mp first
    obtain ⟨other, second⟩ := avoids_skip_iff.mp second
    rw [rename, Renaming.swap_series different other, ih first second]
  | limit ms inner ih => rw [rename, ih first second]

theorem Effect.rename_series {e : Effect}
    (first : ∀ name, e.place? ≠ some (.cell ⟨one, name⟩))
    (second : ∀ name, e.place? ≠ some (.cell ⟨two, name⟩)) :
    e.rename (.series one two) = e := by
  cases e with
  | finished id => rfl
  | stored key v =>
    have different : key.series ≠ one := by
      rintro rfl
      exact first key.name rfl
    have other : key.series ≠ two := by
      rintro rfl
      exact second key.name rfl
    rw [rename, Renaming.swap_series different other]
  | overran limit => rfl

theorem Move.rename_series {m : Move} (first : ∀ p ∈ m.checks, p.Avoids one)
    (second : ∀ p ∈ m.checks, p.Avoids two) : m.rename (.series one two) = m := by
  have kept : ∀ p ∈ m.checks, p.rename (.series one two) = p :=
    fun p member => Probe.rename_series (first p member) (second p member)
  cases m with
  | begin p => exact congrArg Move.begin (kept p List.mem_cons_self)
  | check p => exact congrArg Move.check (kept p List.mem_cons_self)
  | safeCheck p => exact congrArg Move.safeCheck (kept p List.mem_cons_self)
  | evaluate r e =>
    have entries : r.rename (.series one two) = r := by
      refine congrArg Roster.mk (NameMap.ext ?_)
      refine (List.map_congr_left fun f member => ?_).trans (List.map_id _)
      exact congrArg (Prod.mk f.1) (kept f.2 (List.mem_map_of_mem member))
    rw [rename, entries]
  | switch id on => rfl
  | shutdown workers => rfl
  | advance ms => rfl

/-- A session in which neither series is in use does not tell them apart. -/
theorem Session.rename_series {s : Session} (first : s.Unused one) (second : s.Unused two) :
    s.rename (.series one two) = s := by
  have world : s.world.rename (.series one two) = s.world := by
    refine World.ext rfl rfl (funext fun ⟨number, name⟩ => ?_)
    rw [World.rename, Renaming.series]
    dsimp only
    split
    · rename_i same
      rw [same, first.fresh, second.fresh]
    · split
      · rename_i same
        rw [same, first.fresh, second.fresh]
      · rfl
  have pending : s.pending.map (Pending.rename (.series one two)) = s.pending := by
    refine (List.map_congr_left fun q member => ?_).trans (List.map_id _)
    have effects : q.effects.map (Effect.rename (.series one two)) = q.effects := by
      refine (List.map_congr_left fun e inside => ?_).trans (List.map_id _)
      exact Effect.rename_series (fun name => (first.spares name).silent member e inside)
        fun name => (second.spares name).silent member e inside
    rw [Pending.rename, effects, id]
  have queued : s.queued.map (Probe.rename (.series one two)) = s.queued := by
    refine (List.map_congr_left fun p member => ?_).trans (List.map_id _)
    exact Probe.rename_series (fun name => (first.spares name).queued p member)
      fun name => (second.spares name).queued p member
  rw [rename, world, pending, queued]

end Series

end HealthWatch
