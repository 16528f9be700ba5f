import HealthWatch.Proofs.Evaluation.Collapse
import HealthWatch.Proofs.Evaluation.Translation
import HealthWatch.Proofs.Fanout.Unseen

/-!
# Hidden cells

`Session.veil` takes some cells out of sight: what they hold, and what evaluations in progress are
going to store in them. A history of checks without such cells is the same with and without the veil
(`move?_veil`).
-/

namespace HealthWatch

variable {hidden : Cell.Key → Bool} {key : Cell.Key} {p inner : Probe} {w w' : World} {s : Session}

def World.veil (hidden : Cell.Key → Bool) (w : World) : World :=
  { w with cell := fun key => if hidden key then .fresh else w.cell key }

def Effect.shows (hidden : Cell.Key → Bool) : Effect → Bool
  | .stored key _ => !hidden key
  | .finished _ | .overran _ => true

def Course.veil (hidden : Cell.Key → Bool) : Course → Course :=
  mapEffects (List.filter (Effect.shows hidden))

def Session.veil (hidden : Cell.Key → Bool) (s : Session) : Session where
  now := s.now
  world := s.world.veil hidden
  pending := s.pending.map fun q => ⟨q.due, q.effects.filter (Effect.shows hidden)⟩
  queued := s.queued
  reports := s.reports

/-! ### Worlds -/

namespace World

theorem ext_read (off : w.off = w'.off) (read : ∀ place, w.read place = w'.read place) : w = w' :=
  World.ext (funext fun id => Sum.inl.inj (read (.calls id))) off
    (funext fun key => Sum.inr.inj (read (.cell key)))

theorem cell_veil_hidden (covered : hidden key = true) : (w.veil hidden).cell key = .fresh :=
  if_pos covered

theorem read_veil {place : Place} (visible : ∀ key, place = .cell key → hidden key = false) :
    (w.veil hidden).read place = w.read place := by
  cases place with
  | calls id => rfl
  | cell key => simp [read, veil, visible key rfl]

theorem veil_turn (covered : hidden key = true) : (w.turn key).veil hidden = w.veil hidden := by
  refine World.ext rfl rfl (funext fun k => ?_)
  by_cases same : k = key
  · simp [veil, same, covered]
  · simp [veil, turn, same]

theorem turn_alike {one two : Cell.Key} (covered : hidden one = true) (covered' : hidden two = true)
    (alike : w.veil hidden = w'.veil hidden) :
    (w.turn one).veil hidden = (w'.turn two).veil hidden := by
  rw [veil_turn covered, veil_turn covered', alike]

theorem veil_apply (e : Effect) (w : World) :
    (e.apply w).veil hidden =
      if e.shows hidden then e.apply (w.veil hidden) else w.veil hidden := by
  cases e with
  | finished id => rfl
  | overran limit => rfl
  | stored key v =>
    cases covered : hidden key with
    | true =>
      simp only [Effect.shows, covered, Bool.not_true, Bool.false_eq_true, if_false]
      refine World.ext rfl rfl (funext fun k => ?_)
      by_cases same : k = key
      · simp [veil, same, covered]
      · simp [veil, Effect.apply, store, same]
    | false =>
      simp only [Effect.shows, covered, Bool.not_false, if_true]
      refine World.ext rfl rfl (funext fun k => ?_)
      by_cases same : k = key
      · simp [veil, Effect.apply, store, same, covered]
      · simp [veil, Effect.apply, store, same]

theorem veil_applyAll (effects : List Effect) (w : World) :
    Effect.applyAll (w.veil hidden) (effects.filter (Effect.shows hidden)) =
      (Effect.applyAll w effects).veil hidden := by
  induction effects generalizing w with
  | nil => rfl
  | cons e rest ih =>
    have applied := ih (e.apply w)
    rw [veil_apply] at applied
    cases shown : e.shows hidden with
    | true =>
      rw [if_pos shown] at applied
      rw [List.filter_cons_of_pos shown]
      exact applied
    | false =>
      rw [if_neg (by simp [shown])] at applied
      rw [List.filter_cons_of_neg (by simp [shown])]
      exact applied

end World

/-! ### Checks without hidden cells -/

namespace Probe

variable (clear : p.Clear (hidden ·))

include clear

theorem read_veil_of_clear {place : Place} (inside : place ∈ p.places) (w : World) :
    (w.veil hidden).read place = w.read place := by
  refine World.read_veil fun key same => ?_
  simpa using clear key (same ▸ inside)

theorem veil_course_of_clear (w : World) : (p.begin w).2.veil hidden = (p.begin w).2 := by
  have within := p.within_begin w
  generalize (p.begin w).2 = course at within
  cases course with
  | never => rfl
  | ends after effects outcome =>
    refine congrArg (Course.ends after · outcome) (List.filter_eq_self.mpr fun e member => ?_)
    cases e with
    | finished id => rfl
    | overran limit => rfl
    | stored key v =>
      have inside : .cell key ∈ p.places := within _ member _ rfl
      simpa [Effect.shows] using clear key inside

/-- A check does not notice what is in cells that it does not have. -/
theorem begin_veil (w : World) :
    p.begin (w.veil hidden) = ((p.begin w).1.veil hidden, (p.begin w).2.veil hidden) := by
  have agree : World.Agree p.places (w.veil hidden) w :=
    fun place inside => read_veil_of_clear clear inside w
  have course := (begin_agree (List.Subset.refl _) agree).1
  refine Prod.ext ?_ (course.trans (veil_course_of_clear clear w).symm)
  refine World.ext_read (by simp [World.veil]) fun place => ?_
  by_cases visible : ∀ key, place = .cell key → hidden key = false
  · have wider : World.Agree (place :: p.places) (w.veil hidden) w :=
      List.forall_mem_cons.mpr ⟨World.read_veil visible, agree⟩
    rw [World.read_veil visible]
    exact (begin_agree (List.subset_cons_self ..) wider).2 place List.mem_cons_self
  · obtain ⟨key, rfl, covered⟩ : ∃ key, place = .cell key ∧ hidden key = true := by
      simpa using visible
    have outside : .cell key ∉ p.places := fun inside => clear key inside covered
    rw [read_begin outside]
    exact congrArg Sum.inr ((World.cell_veil_hidden covered).trans
      (World.cell_veil_hidden covered).symm)

end Probe

/-- The veil is a translation of the checks that have no hidden cell. -/
def veiling (hidden : Cell.Key → Bool) : Translation where
  allowed p := p.Clear (hidden ·)
  probe := id
  world := World.veil hidden
  effects := List.filter (Effect.shows hidden)
  begin := Probe.begin_veil
  applyAll := World.veil_applyAll
  events := fun ended => by
    rw [List.filterMap_filter]
    refine List.filterMap_congr fun e _ => ?_
    cases e <;> simp [Effect.shows, Effect.event?]
  reply := fun _ _ => rfl
  isActive := fun p w => p.isActive_congr rfl
  switch := fun _ _ _ => rfl

namespace Session

theorem veil_eq (s : Session) : s.veil hidden = (veiling hidden).session s :=
  congrArg (Session.mk s.now (s.world.veil hidden) _ · s.reports) (List.map_id _).symm

theorem veiling_move (m : Move) : (veiling hidden).move m = m := by
  cases m with
  | evaluate r e =>
    have entries : (veiling hidden).roster r = r :=
      congrArg Roster.mk (NameMap.ext (List.map_id _))
    rw [Translation.move, entries]
  | _ => rfl

theorem waited_veil (clear : ∀ q ∈ s.queued, q.Clear (hidden ·)) (w : World) (after : Nat)
    (effects : List Effect) :
    (s.waited w after effects).veil hidden =
      (s.veil hidden).waited (w.veil hidden) after (effects.filter (Effect.shows hidden)) := by
  rw [veil_eq, veil_eq]
  exact (Translation.waited (T := veiling hidden) ⟨trivial, clear⟩ w after effects).symm

theorem move?_veil {m : Move} (ours : ∀ p ∈ m.checks, p.Clear (hidden ·))
    (clear : ∀ q ∈ s.queued, q.Clear (hidden ·)) :
    (s.veil hidden).move? m = (s.move? m).map fun a => (a.1.veil hidden, a.2) := by
  have moved := Translation.move? (T := veiling hidden) ours ⟨trivial, clear⟩
  rw [veiling_move] at moved
  simpa only [veil_eq] using moved

end Session

/-! ### Skipping checks with a hidden cell -/

/-- What a skipping check stores in a hidden cell does not show, but it makes a verdict of what the
check inside replies. -/
theorem Course.veil_stored (covered : hidden key = true) (guarded : inner.Guarded) (c : Course) :
    (c.stored key inner).veil hidden = (c.veil hidden).caught := by
  cases c with
  | never => rfl
  | ends after effects outcome =>
    simp [stored, guarded outcome, veil, mapEffects, caught, Effect.shows, covered]

end HealthWatch
