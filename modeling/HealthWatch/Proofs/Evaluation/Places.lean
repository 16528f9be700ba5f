import HealthWatch.Session

/-!
# What a check touches

A check reads and writes a few places of the world only: the calls of its leaf and the cells of its
skipping checks. `begin_agree` says that an evaluation depends on nothing else, `read_begin` and
`read_applyAll` that it leaves all else alone. Checks without a common place do not notice each
other.
-/

namespace HealthWatch

/-- A part of the world that a check may change. -/
inductive Place where
  | calls (id : String)
  | cell (key : Cell.Key)
  deriving DecidableEq, Repr

namespace Probe

/-- The places that evaluating a check reads and writes. -/
def places : Probe → List Place
  | .leaf l => [.calls l.id]
  | .dying id _ => [.calls id]
  | .skip key _ inner => .cell key :: inner.places
  | .limit _ inner => inner.places

/-- The checks share no state. -/
def Apart (p q : Probe) : Prop :=
  ∀ place ∈ p.places, place ∉ q.places

instance (p q : Probe) : Decidable (p.Apart q) :=
  inferInstanceAs (Decidable (∀ place ∈ p.places, place ∉ q.places))

theorem Apart.symm {p q : Probe} (apart : p.Apart q) : q.Apart p :=
  fun place ours theirs => apart place theirs ours

/-- The check has no cell of the series. -/
def Avoids (p : Probe) (series : Nat) : Prop :=
  ∀ name, .cell ⟨series, name⟩ ∉ p.places

theorem avoids_skip_iff {key : Cell.Key} {skips series : Nat} {inner : Probe} :
    (skip key skips inner).Avoids series ↔ key.series ≠ series ∧ inner.Avoids series := by
  constructor
  · refine fun avoids => ⟨?_, fun name inside => avoids name (List.mem_cons_of_mem _ inside)⟩
    rintro rfl
    exact avoids key.name List.mem_cons_self
  · rintro ⟨other, inside⟩ name member
    rcases List.mem_cons.mp member with same | member
    · exact other (congrArg Cell.Key.series (Place.cell.inj same)).symm
    · exact inside name member

end Probe

namespace World

def read (w : World) : Place → Tally ⊕ Cell
  | .calls id => .inl (w.tally id)
  | .cell key => .inr (w.cell key)

def Agree (places : List Place) (w w' : World) : Prop :=
  ∀ place ∈ places, w.read place = w'.read place

variable {places : List Place} {w w' : World}

theorem agree_tally (agree : Agree places w w') {id : String} (h : .calls id ∈ places) :
    w.tally id = w'.tally id :=
  Sum.inl.inj (agree _ h)

theorem agree_cell (agree : Agree places w w') {key : Cell.Key} (h : .cell key ∈ places) :
    w.cell key = w'.cell key :=
  Sum.inr.inj (agree _ h)

/-! ### Writes and places -/

theorem read_begin_other {id : String} {place : Place} (other : place ≠ .calls id) :
    (w.begin id).read place = w.read place := by
  cases place with
  | calls i =>
    have different : i ≠ id := fun same => other (same ▸ rfl)
    simp [read, begin, different]
  | cell key => rfl

theorem read_finish_other {id : String} {place : Place} (other : place ≠ .calls id) :
    (w.finish id).read place = w.read place := by
  cases place with
  | calls i =>
    have different : i ≠ id := fun same => other (same ▸ rfl)
    simp [read, finish, different]
  | cell key => rfl

theorem read_turn_other {key : Cell.Key} {place : Place} (other : place ≠ .cell key) :
    (w.turn key).read place = w.read place := by
  cases place with
  | calls i => rfl
  | cell k =>
    have different : k ≠ key := fun same => other (same ▸ rfl)
    simp [read, turn, different]

theorem read_store_other {key : Cell.Key} {v : Verdict} {place : Place} (other : place ≠ .cell key) :
    (w.store key v).read place = w.read place := by
  cases place with
  | calls i => rfl
  | cell k =>
    have different : k ≠ key := fun same => other (same ▸ rfl)
    simp [read, store, different]

theorem agree_begin (agree : Agree places w w') (id : String) :
    Agree places (w.begin id) (w'.begin id) := by
  intro place member
  by_cases same : place = .calls id
  · subst same
    simp [read, begin, agree_tally agree member]
  · rw [read_begin_other same, read_begin_other same, agree place member]

theorem agree_turn (agree : Agree places w w') (key : Cell.Key) :
    Agree places (w.turn key) (w'.turn key) := by
  intro place member
  by_cases same : place = .cell key
  · subst same
    simp [read, turn, agree_cell agree member]
  · rw [read_turn_other same, read_turn_other same, agree place member]

end World

/-! ### Beginning an evaluation -/

namespace Probe

open World (Agree)

theorem begin_of_replay {key : Cell.Key} {skips : Nat} {w : World} {v : Verdict}
    (found : (w.cell key).replay? skips = some v) (inner : Probe) :
    (skip key skips inner).begin w = (w.turn key, .ends 0 [] (.verdict v)) := by
  simp only [begin, found]

theorem begin_of_due {key : Cell.Key} {skips : Nat} {w : World}
    (due : (w.cell key).replay? skips = none) (inner : Probe) :
    (skip key skips inner).begin w =
      ((inner.begin (w.turn key)).1, (inner.begin (w.turn key)).2.stored key inner) := by
  simp only [begin, due]

/-- To begin an evaluation leaves alone what the check does not touch. -/
theorem read_begin {p : Probe} {place : Place} (outside : place ∉ p.places) (w : World) :
    (p.begin w).1.read place = w.read place := by
  induction p generalizing w with
  | leaf l => exact World.read_begin_other (by simpa [places] using outside)
  | dying id text => exact World.read_begin_other (by simpa [places] using outside)
  | skip key skips inner ih =>
    have other : place ≠ .cell key := fun same => outside (same ▸ List.mem_cons_self)
    have inside : place ∉ inner.places := fun member => outside (List.mem_cons_of_mem _ member)
    have turned := World.read_turn_other (w := w) other
    rw [begin]
    split
    · exact turned
    · exact (ih inside (w.turn key)).trans turned
  | limit ms inner ih => exact ih outside w

/-- What an evaluation will do depends on the places of the check alone, and so does what it
leaves there. -/
theorem begin_agree {p : Probe} {seen : List Place} (within : p.places ⊆ seen) {w w' : World}
    (agree : Agree seen w w') :
    (p.begin w).2 = (p.begin w').2 ∧ Agree seen (p.begin w).1 (p.begin w').1 := by
  induction p generalizing w w' with
  | leaf l =>
    have calls := World.agree_tally agree (within (List.mem_singleton_self (Place.calls l.id)))
    exact ⟨by simp [begin, calls], World.agree_begin agree l.id⟩
  | dying id text => exact ⟨rfl, World.agree_begin agree id⟩
  | skip key skips inner ih =>
    obtain ⟨own, rest⟩ := List.cons_subset.mp within
    have cell := World.agree_cell agree own
    have turned := World.agree_turn agree key
    obtain ⟨course, after⟩ := ih rest turned
    simp only [begin, cell]
    split
    · exact ⟨rfl, turned⟩
    · exact ⟨congrArg (Course.stored key inner) course, after⟩
  | limit ms inner ih =>
    obtain ⟨course, after⟩ := ih within agree
    exact ⟨congrArg (Course.limited ms inner) course, after⟩

end Probe

/-! ### Ending an evaluation -/

namespace Effect

def place? : Effect → Option Place
  | .finished id => some (.calls id)
  | .stored key _ => some (.cell key)
  | .overran _ => none

theorem read_apply {e : Effect} {place : Place} (other : e.place? ≠ some place) (w : World) :
    (e.apply w).read place = w.read place := by
  cases e with
  | finished id => exact World.read_finish_other fun same => other (same ▸ rfl)
  | stored key v => exact World.read_store_other fun same => other (same ▸ rfl)
  | overran limit => rfl

theorem read_applyAll {effects : List Effect} {place : Place}
    (other : ∀ e ∈ effects, e.place? ≠ some place) (w : World) :
    (applyAll w effects).read place = w.read place := by
  induction effects generalizing w with
  | nil => rfl
  | cons e rest ih =>
    obtain ⟨first, later⟩ := List.forall_mem_cons.mp other
    exact (ih later (e.apply w)).trans (read_apply first w)

end Effect

namespace Course

def effects : Course → List Effect
  | .never => []
  | .ends _ effects _ => effects

/-- The course writes at the places only. -/
def Within (places : List Place) (c : Course) : Prop :=
  ∀ e ∈ c.effects, ∀ place, e.place? = some place → place ∈ places

variable {places : List Place} {c : Course}

theorem within_ofAct (id : String) (act : Act) : Within [.calls id] (ofAct id act) := by
  intro e member place writes
  cases act with
  | hang => simp [ofAct, effects] at member
  | finish after outcome =>
    cases outcome with
    | panic payload => simp [ofAct, effects] at member
    | verdict v =>
      obtain rfl : e = .finished id := by simpa [ofAct, effects] using member
      simp_all [Effect.place?]
    | error cause =>
      obtain rfl : e = .finished id := by simpa [ofAct, effects] using member
      simp_all [Effect.place?]

theorem Within.stored (within : Within places c) (key : Cell.Key) (inner : Probe) :
    Within (.cell key :: places) (c.stored key inner) := by
  intro e member place writes
  cases c with
  | never => simp [Course.stored, effects] at member
  | ends after own outcome =>
    rw [Course.stored] at member
    split at member
    · rcases List.mem_append.mp member with old | last
      · exact List.mem_cons_of_mem _ (within e old place writes)
      · obtain rfl := List.mem_singleton.mp last
        exact Option.some.inj writes ▸ List.mem_cons_self
    · exact List.mem_cons_of_mem _ (within e member place writes)

theorem Within.limited (within : Within places c) (ms : Nat) (inner : Probe) :
    Within places (c.limited ms inner) := by
  have overran : Within places (.ends ms [.overran ms] (.verdict .timedOut)) := by
    intro e member place writes
    obtain rfl := List.mem_singleton.mp member
    simp [Effect.place?] at writes
  cases c with
  | never => exact overran
  | ends after own outcome =>
    rw [Course.limited]
    split
    · exact within
    · exact overran

end Course

namespace Probe

/-- An evaluation ends with effects on the places of the check only. -/
theorem within_begin (p : Probe) (w : World) : (p.begin w).2.Within p.places := by
  induction p generalizing w with
  | leaf l => exact Course.within_ofAct l.id _
  | dying id text => simp [begin, Course.Within, Course.effects]
  | skip key skips inner ih =>
    rw [begin]
    split
    · simp [Course.Within, Course.effects]
    · exact (ih (w.turn key)).stored key inner
  | limit ms inner ih => exact (ih w).limited ms inner

end Probe

/-! ### Beginning checks in a session -/

namespace Session

@[simp] theorem now_conclude (s : Session) (at_ : Nat) (effects : List Effect) :
    (s.conclude at_ effects).now = s.now := rfl

@[simp] theorem now_runTo (s : Session) (t : Nat) : (s.runTo t).now = t := rfl

theorem launch_eq (s : Session) (p : Probe) :
    s.launch p =
      let begun := { s with world := (p.begin s.world).1 }
      (match (p.begin s.world).2 with
        | .never => begun
        | .ends 0 effects _ => begun.conclude s.now effects
        | .ends after effects _ =>
          { begun with pending := s.pending ++ [⟨s.now + after, effects⟩] },
        (p.begin s.world).2) := by
  rw [launch]
  obtain ⟨world, course⟩ := p.begin s.world
  rcases course with _ | ⟨_ | after, effects, outcome⟩ <;> rfl

theorem launch_course (s : Session) (p : Probe) : (s.launch p).2 = (p.begin s.world).2 := by
  rw [launch_eq]

@[simp] theorem now_launch (s : Session) (p : Probe) : (s.launch p).1.now = s.now := by
  rw [launch_eq]
  dsimp only
  split <;> rfl

/-- To begin a check leaves alone what the check does not touch, also when it ends at once. -/
theorem read_launch {p : Probe} {place : Place} (outside : place ∉ p.places) (s : Session) :
    (s.launch p).1.world.read place = s.world.read place := by
  have begun := Probe.read_begin outside s.world
  have within := p.within_begin s.world
  rw [launch_eq]
  dsimp only
  split
  · exact begun
  · rename_i effects outcome ended
    rw [ended] at within
    refine (Effect.read_applyAll ?_ _).trans begun
    intro e member writes
    exact outside (within e member place writes)
  · exact begun

theorem beginQueued_induction {motive : Session → Prop} (s : Session)
    (start : motive { s with queued := [] })
    (next : ∀ t, motive t → ∀ p ∈ s.queued, motive (t.launch p).1) : motive s.beginQueued :=
  List.foldlRecOn s.queued _ start next

@[simp] theorem now_beginQueued (s : Session) : s.beginQueued.now = s.now :=
  s.beginQueued_induction (motive := fun t => t.now = s.now) rfl
    fun t same p _ => (now_launch t p).trans same

theorem beginQueued_of_idle {s : Session} (idle : s.queued = []) : s.beginQueued = s := by
  cases s
  subst idle
  rfl

end Session

end HealthWatch
