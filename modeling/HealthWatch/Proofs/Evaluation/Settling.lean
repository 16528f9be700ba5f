import HealthWatch.Proofs.Evaluation.Places

/-!
# How evaluations settle

What a session has begun it brings to an end, and what that leaves at a place can be told in
advance: `foreseen` reads a place as it will be when all that is `outstanding` there has ended. To
begin a check foresees what the check leaves when nothing interrupts it (`foreseen_launch`), and
once the clock has passed the last end the world is as it was foreseen (`read_runTo`). Of one check
that is waited for, `waited` is the session that is left.
-/

namespace HealthWatch

namespace Effect

theorem read_apply_congr (e : Effect) {w w' : World} {place : Place}
    (same : w.read place = w'.read place) : (e.apply w).read place = (e.apply w').read place := by
  by_cases own : e.place? = some place
  · cases e with
    | finished id =>
      obtain rfl : .calls id = place := Option.some.inj own
      have tally : w.tally id = w'.tally id := Sum.inl.inj same
      simp [apply, World.read, World.finish, tally]
    | stored key v =>
      obtain rfl : .cell key = place := Option.some.inj own
      have cell : w.cell key = w'.cell key := Sum.inr.inj same
      simp [apply, World.read, World.store, cell]
    | overran limit => cases own
  · rw [read_apply own, read_apply own, same]

theorem read_applyAll_congr (effects : List Effect) {w w' : World} {place : Place}
    (same : w.read place = w'.read place) :
    (applyAll w effects).read place = (applyAll w' effects).read place := by
  induction effects generalizing w w' with
  | nil => exact same
  | cons e rest ih => exact ih (read_apply_congr e same)

theorem applyAll_append (w : World) (effects more : List Effect) :
    applyAll w (effects ++ more) = applyAll (applyAll w effects) more :=
  List.foldl_append

@[simp] theorem off_applyAll (w : World) (effects : List Effect) :
    (applyAll w effects).off = w.off := by
  induction effects generalizing w with
  | nil => rfl
  | cons e rest ih =>
    refine (ih (e.apply w)).trans ?_
    cases e <;> rfl

end Effect

/-! ### One evaluation -/

namespace Probe

open World (Agree)

@[simp] theorem off_begin (p : Probe) (w : World) : (p.begin w).1.off = w.off := by
  induction p generalizing w with
  | leaf l => rfl
  | dying id text => rfl
  | skip key skips inner ih =>
    rw [begin]
    split
    · rfl
    · exact ih (w.turn key)
  | limit ms inner ih => exact ih w

theorem isActive_congr (p : Probe) {w w' : World} (same : w.off = w'.off) :
    p.isActive w = p.isActive w' := by
  induction p with
  | leaf l => simp only [isActive, same]
  | dying id text => rfl
  | skip key skips inner ih => exact ih
  | limit ms inner ih => exact ih

def settled (p : Probe) (w : World) : World :=
  Effect.applyAll (p.begin w).1 (p.begin w).2.effects

theorem read_settled {p : Probe} {place : Place} (outside : place ∉ p.places) (w : World) :
    (p.settled w).read place = w.read place := by
  refine (Effect.read_applyAll ?_ _).trans (read_begin outside w)
  intro e member writes
  exact outside (p.within_begin w e member place writes)

theorem settled_agree {p : Probe} {w w' : World} (agree : Agree p.places w w') :
    Agree p.places (p.settled w) (p.settled w') := by
  obtain ⟨course, begun⟩ := begin_agree (List.Subset.refl _) agree
  intro place member
  rw [settled, settled, course]
  exact Effect.read_applyAll_congr _ (begun place member)

end Probe

/-! ### What is outstanding at a place -/

/-- The evaluation will write at the place. -/
def Pending.touches (p : Pending) (place : Place) : Bool :=
  p.effects.any fun e => e.place? == some place

theorem Pending.touches_eq_false {p : Pending} {place : Place} :
    p.touches place = false ↔ ∀ e ∈ p.effects, e.place? ≠ some place := by
  simp [touches]

namespace Session

variable {s t : Session} {p : Probe} {place : Place}

def outstanding (s : Session) (place : Place) : List Pending :=
  s.pending.filter (·.touches place)

/-- What will be at the place when all that is outstanding has ended. -/
def foreseen (s : Session) (place : Place) : Tally ⊕ Cell :=
  (Effect.applyAll s.world ((s.outstanding place).flatMap (·.effects))).read place

theorem foreseen_of_free (free : s.outstanding place = []) :
    s.foreseen place = s.world.read place := by
  rw [foreseen, free]
  rfl

def awaiting (now : Nat) : Course → List Pending
  | .ends (after + 1) effects _ => [⟨now + (after + 1), effects⟩]
  | .ends 0 _ _ | .never => []

@[simp] theorem pending_launch (s : Session) (p : Probe) :
    (s.launch p).1.pending = s.pending ++ awaiting s.now (p.begin s.world).2 := by
  rw [launch_eq]
  rcases (p.begin s.world).2 with _ | ⟨_ | after, effects, outcome⟩ <;> simp [conclude, awaiting]

@[simp] theorem queued_launch (s : Session) (p : Probe) : (s.launch p).1.queued = s.queued := by
  rw [launch_eq]
  rcases (p.begin s.world).2 with _ | ⟨_ | after, effects, outcome⟩ <;> rfl

theorem world_launch (s : Session) (p : Probe) :
    (s.launch p).1.world =
      match (p.begin s.world).2 with
      | .ends 0 effects _ => Effect.applyAll (p.begin s.world).1 effects
      | _ => (p.begin s.world).1 := by
  rw [launch_eq]
  rcases (p.begin s.world).2 with _ | ⟨_ | after, effects, outcome⟩ <;> rfl

@[simp] theorem off_launch (s : Session) (p : Probe) :
    (s.launch p).1.world.off = s.world.off := by
  rw [world_launch]
  rcases (p.begin s.world).2 with _ | ⟨_ | after, effects, outcome⟩ <;> simp

theorem outstanding_launch (s : Session) (p : Probe) (place : Place) :
    (s.launch p).1.outstanding place =
      s.outstanding place ++ (awaiting s.now (p.begin s.world).2).filter (·.touches place) := by
  rw [outstanding, pending_launch, List.filter_append, outstanding]

theorem outstanding_launch_other (outside : place ∉ p.places) (s : Session) :
    (s.launch p).1.outstanding place = s.outstanding place := by
  have within := p.within_begin s.world
  have untouched : (awaiting s.now (p.begin s.world).2).filter (·.touches place) = [] := by
    refine List.filter_eq_nil_iff.mpr fun q member => ?_
    generalize (p.begin s.world).2 = course at within member
    rcases course with _ | ⟨_ | after, effects, outcome⟩
    · cases member
    · cases member
    · obtain rfl := List.mem_singleton.mp member
      rw [Bool.not_eq_true, Pending.touches_eq_false]
      exact fun e writer writes => outside (within e writer place writes)
  rw [outstanding_launch, untouched, List.append_nil]

/-- A check that begins where nothing is outstanding has at most one evaluation there, which ends
when its course says. -/
theorem outstanding_launch_own (free : s.outstanding place = []) (p : Probe) :
    ((s.launch p).1.outstanding place).length ≤ 1 ∧
      ∀ q ∈ (s.launch p).1.outstanding place, ∃ after effects outcome,
        (p.begin s.world).2 = .ends (after + 1) effects outcome ∧ q.due = s.now + (after + 1) := by
  rw [outstanding_launch, free, List.nil_append]
  rcases (p.begin s.world).2 with _ | ⟨_ | after, effects, outcome⟩
  · simp [awaiting]
  · simp [awaiting]
  · refine ⟨List.length_filter_le .., fun q member => ⟨after, effects, outcome, rfl, ?_⟩⟩
    rw [List.mem_singleton.mp (List.mem_filter.mp member).1]

theorem foreseen_launch (free : s.outstanding place = []) (p : Probe) :
    (s.launch p).1.foreseen place = (p.settled s.world).read place := by
  rw [foreseen, outstanding_launch, world_launch, free, List.nil_append, Probe.settled]
  rcases (p.begin s.world).2 with _ | ⟨_ | after, effects, outcome⟩
  · rfl
  · rfl
  · cases touched : Pending.touches ⟨s.now + (after + 1), effects⟩ place with
    | true => simp [awaiting, touched, Course.effects]
    | false =>
      have quiet := Effect.read_applyAll (Pending.touches_eq_false.mp touched) (p.begin s.world).1
      simpa [awaiting, touched, Course.effects, Effect.applyAll] using quiet.symm

theorem foreseen_congr (free : t.outstanding place = s.outstanding place)
    (world : t.world.read place = s.world.read place) : t.foreseen place = s.foreseen place := by
  rw [foreseen, free, foreseen]
  exact Effect.read_applyAll_congr _ world

/-! ### Letting the clock run -/

theorem runTo_parts (s : Session) (t : Nat) :
    (s.runTo t).world = Effect.applyAll s.world ((s.dueBy t).flatMap (·.effects)) ∧
      (s.runTo t).queued = s.queued := by
  have folded : ∀ (due : List Pending) (u : Session),
      let v := due.foldl (fun u p => u.conclude p.due p.effects) u
      v.world = Effect.applyAll u.world (due.flatMap (·.effects)) ∧ v.queued = u.queued := by
    intro due
    induction due with
    | nil => intro u; exact ⟨rfl, rfl⟩
    | cons p rest ih =>
      intro u
      obtain ⟨world, queued⟩ := ih (u.conclude p.due p.effects)
      refine ⟨?_, queued⟩
      rw [List.flatMap_cons, Effect.applyAll_append]
      exact world
  exact folded (s.dueBy t) s

theorem off_runTo (s : Session) (t : Nat) : (s.runTo t).world.off = s.world.off := by
  rw [(s.runTo_parts t).1, Effect.off_applyAll]

/-- Evaluations that do not touch a place can be left out. -/
theorem read_applyAll_touching (ended : List Pending) (w : World) :
    (Effect.applyAll w (ended.flatMap (·.effects))).read place =
      (Effect.applyAll w ((ended.filter (·.touches place)).flatMap (·.effects))).read place := by
  induction ended generalizing w with
  | nil => rfl
  | cons p rest ih =>
    rw [List.flatMap_cons, Effect.applyAll_append]
    cases touched : p.touches place with
    | true =>
      rw [List.filter_cons, if_pos touched, List.flatMap_cons, Effect.applyAll_append, ih]
    | false =>
      rw [List.filter_cons, if_neg (by simp [touched]), ih]
      exact Effect.read_applyAll_congr _
        (Effect.read_applyAll (Pending.touches_eq_false.mp touched) w)

/-- When all that is outstanding at a place is over, the place is as it was foreseen. -/
theorem read_runTo {time : Nat} (few : (s.outstanding place).length ≤ 1)
    (due : ∀ p ∈ s.outstanding place, p.due ≤ time) :
    (s.runTo time).world.read place = s.foreseen place ∧
      (s.runTo time).outstanding place = [] := by
  have early : (s.pending.filter (·.due ≤ time)).filter (·.touches place) =
      s.outstanding place := by
    rw [List.filter_filter, outstanding]
    refine List.filter_congr fun p member => ?_
    cases touched : p.touches place with
    | true => simpa using due p (List.mem_filter.mpr ⟨member, touched⟩)
    | false => rfl
  constructor
  · -- The order of the ends does not matter, since there is at most one of them.
    have sorted : ((s.dueBy time).filter (·.touches place)).Perm (s.outstanding place) :=
      early ▸ (List.mergeSort_perm _ _).filter _
    have same : (s.dueBy time).filter (·.touches place) = s.outstanding place := by
      match s.outstanding place, few, sorted with
      | [], _, sorted => exact sorted.eq_nil
      | [_], _, sorted => exact List.perm_singleton.mp sorted
    rw [(s.runTo_parts time).1, read_applyAll_touching, same, foreseen]
  · refine List.filter_eq_nil_iff.mpr fun p member touched => ?_
    obtain ⟨inside, late⟩ := List.mem_filter.mp member
    have ended := due p (List.mem_filter.mpr ⟨inside, touched⟩)
    simp [ended] at late

/-! ### Places that nothing in progress touches -/

/-- Nothing that the session has begun or been given will write at the place. -/
structure Spares (s : Session) (place : Place) : Prop where
  free : s.outstanding place = []
  queued : ∀ q ∈ s.queued, place ∉ q.places

theorem Spares.silent (spares : s.Spares place) {q : Pending} (member : q ∈ s.pending) :
    ∀ e ∈ q.effects, e.place? ≠ some place := by
  have untouched : q.touches place = false := by
    simpa using List.filter_eq_nil_iff.mp spares.free q member
  exact Pending.touches_eq_false.mp untouched

theorem beginQueued_spared (queued : ∀ q ∈ s.queued, place ∉ q.places) :
    s.beginQueued.world.read place = s.world.read place ∧
      s.beginQueued.outstanding place = s.outstanding place := by
  refine s.beginQueued_induction (motive := fun t => t.world.read place = s.world.read place ∧
    t.outstanding place = s.outstanding place) ⟨rfl, rfl⟩ fun t same q member => ?_
  obtain ⟨world, free⟩ := same
  exact ⟨(read_launch (queued q member) t).trans world,
    (outstanding_launch_other (queued q member) t).trans free⟩

theorem beginQueued_parts (s : Session) :
    s.beginQueued.queued = [] ∧ s.beginQueued.world.off = s.world.off :=
  s.beginQueued_induction (motive := fun t => t.queued = [] ∧ t.world.off = s.world.off) ⟨rfl, rfl⟩
    fun t same q _ => ⟨(t.queued_launch q).trans same.1, (t.off_launch q).trans same.2⟩

theorem Spares.beginQueued (spares : s.Spares place) : s.beginQueued.Spares place where
  free := (beginQueued_spared spares.queued).2.trans spares.free
  queued := by simp [s.beginQueued_parts.1]

/-- No check with a cell of the series has begun or is queued. -/
structure Unused (s : Session) (series : Nat) : Prop where
  fresh : ∀ name, s.world.cell ⟨series, name⟩ = .fresh
  spares : ∀ name, s.Spares (.cell ⟨series, name⟩)

theorem unused_fresh (series : Nat) : fresh.Unused series :=
  ⟨fun _ => rfl, fun _ => ⟨rfl, by simp [fresh]⟩⟩

/-! ### One check, waited for -/

theorem safeCheck_eq (s : Session) (p : Probe) :
    s.safeCheck p = match (p.begin s.world).2 with
      | .never => none
      | .ends after _ outcome =>
        some (if after = 0 then (s.launch p).1 else (s.launch p).1.advance after,
          p.reply outcome) := by
  have course := s.launch_course p
  rw [safeCheck, check]
  generalize s.launch p = launched at course
  obtain ⟨u, c⟩ := launched
  dsimp only at course
  rw [← course]
  cases c <;> rfl

theorem course_of_safeCheck {reply : Reply} (ended : s.safeCheck p = some (t, reply)) :
    ∃ after effects outcome,
      (p.begin s.world).2 = .ends after effects outcome ∧ p.reply outcome = reply := by
  rw [safeCheck_eq] at ended
  split at ended
  · cases ended
  · rename_i after effects outcome course
    obtain ⟨-, same⟩ := Prod.mk.inj (Option.some.inj ended)
    exact ⟨after, effects, outcome, course, same⟩

/-- The session after the wait for an evaluation that has left such a world at its begin. -/
def waited (s : Session) (w : World) (after : Nat) (effects : List Effect) : Session :=
  if after = 0 then ({ s with world := w } : Session).conclude s.now effects
  else ({ s with world := w, pending := s.pending ++ [⟨s.now + after, effects⟩] } : Session).advance
    after

@[simp] theorem now_waited (s : Session) (w : World) (after : Nat) (effects : List Effect) :
    (s.waited w after effects).now = s.now + after := by
  unfold waited
  split
  · simp [*]
  · rfl

theorem check_of_ends {after : Nat} {effects : List Effect} {outcome : Outcome}
    (course : (p.begin s.world).2 = .ends after effects outcome) :
    s.check p = some (s.waited (p.begin s.world).1 after effects, outcome) := by
  rw [check, launch_eq, course]
  cases after <;> rfl

theorem check_of_never (forever : (p.begin s.world).2 = .never) : s.check p = none := by
  rw [check, launch_eq, forever]

theorem safeCheck_of_ends {after : Nat} {effects : List Effect} {outcome : Outcome}
    (course : (p.begin s.world).2 = .ends after effects outcome) :
    s.safeCheck p = some (s.waited (p.begin s.world).1 after effects, p.reply outcome) :=
  congrArg (Option.map _) (check_of_ends course)

theorem safeCheck_of_never (forever : (p.begin s.world).2 = .never) : s.safeCheck p = none :=
  congrArg (Option.map _) (check_of_never forever)

/-- A check that is waited for leaves at every spared place what it leaves when nothing interrupts
it, and nothing of it goes on. -/
theorem safeCheck_spared (spares : s.Spares place) {reply : Reply}
    (ended : s.safeCheck p = some (t, reply)) :
    t.world.read place = (p.settled s.world).read place ∧ t.Spares place := by
  have foreseen := foreseen_launch spares.free p
  obtain ⟨few, due⟩ := outstanding_launch_own spares.free p
  have queued : ∀ q ∈ (s.launch p).1.queued, place ∉ q.places := s.queued_launch p ▸ spares.queued
  rw [safeCheck_eq] at ended
  cases course : (p.begin s.world).2 with
  | never => simp [course] at ended
  | ends after effects outcome =>
    simp only [course, Option.some.injEq, Prod.mk.injEq] at ended
    obtain ⟨rfl, -⟩ := ended
    cases after with
    | zero =>
      have free : (s.launch p).1.outstanding place = [] := by
        rw [outstanding_launch, spares.free, course]
        rfl
      exact ⟨(foreseen_of_free free).symm.trans foreseen, free, queued⟩
    | succ after =>
      obtain ⟨world, same⟩ := beginQueued_spared queued
      have passed : ∀ q ∈ (s.launch p).1.beginQueued.outstanding place,
          q.due ≤ (s.launch p).1.now + (after + 1) := by
        rw [same]
        intro q member
        obtain ⟨_, _, _, settled, at_⟩ := due q member
        rw [course] at settled
        cases settled
        simp [at_]
      obtain ⟨ended, free⟩ := read_runTo (same ▸ few) passed
      refine ⟨?_, free, ?_⟩
      · exact ended.trans ((foreseen_congr same world).trans foreseen)
      · rw [if_neg (Nat.succ_ne_zero _), advance, (runTo_parts _ _).2, (beginQueued_parts _).1]
        simp

end Session

end HealthWatch
