import HealthWatch.Moves
import HealthWatch.Proofs.Evaluation.Settling
import HealthWatch.Proofs.NameMap

/-!
# What histories keep

`Stable` names four things that can happen to a session; a property that survives these survives
every history (`Stable.play`). A place that no check of a history touches stays as it is.
-/

namespace HealthWatch

/-- What is kept when an allowed check begins, when something in progress ends or is given up, and
when a check is switched on or off. -/
structure Stable (allowed : Probe → Prop) (kept : World → List Pending → Prop) : Prop where
  begin : ∀ {p : Probe} {w : World} {pending : List Pending} (due : Nat), allowed p →
    kept w pending → kept (p.begin w).1 (pending ++ [⟨due, (p.begin w).2.effects⟩])
  conclude : ∀ {w : World} {pending : List Pending} {q : Pending}, q ∈ pending →
    kept w pending → kept (Effect.applyAll w q.effects) pending
  drop : ∀ {w : World} {pending rest : List Pending}, rest ⊆ pending →
    kept w pending → kept w rest
  switch : ∀ {w : World} {pending : List Pending} (id : String) (on : Bool),
    kept w pending → kept (w.switch id on) pending

structure Session.Keeps (s : Session) (allowed : Probe → Prop)
    (kept : World → List Pending → Prop) : Prop where
  now : kept s.world s.pending
  queued : ∀ q ∈ s.queued, allowed q

namespace Stable

variable {allowed : Probe → Prop} {kept : World → List Pending → Prop} {s t : Session} {p : Probe}

theorem launch (stable : Stable allowed kept) (ours : allowed p) (keeps : s.Keeps allowed kept) :
    (s.launch p).1.Keeps allowed kept := by
  refine ⟨?_, by simpa using keeps.queued⟩
  rw [Session.pending_launch, Session.world_launch]
  have begun := fun due => stable.begin due ours keeps.now
  generalize (p.begin s.world).2 = course at begun ⊢
  rcases course with _ | ⟨_ | after, effects, outcome⟩
  · simpa [Session.awaiting] using stable.drop (List.subset_append_left ..) (begun 0)
  · have ended := stable.conclude (q := ⟨0, effects⟩) (by simp [Course.effects]) (begun 0)
    simpa [Session.awaiting] using stable.drop (List.subset_append_left ..) ended
  · exact begun _

theorem conclude_all (stable : Stable allowed kept) {w : World} {pending due : List Pending}
    (inside : due ⊆ pending) (keeps : kept w pending) :
    kept (Effect.applyAll w (due.flatMap (·.effects))) pending := by
  induction due generalizing w with
  | nil => exact keeps
  | cons q rest ih =>
    obtain ⟨first, later⟩ := List.cons_subset.mp inside
    rw [List.flatMap_cons, Effect.applyAll_append]
    exact ih later (stable.conclude first keeps)

theorem runTo (stable : Stable allowed kept) (time : Nat) (keeps : s.Keeps allowed kept) :
    (s.runTo time).Keeps allowed kept := by
  obtain ⟨world, queued⟩ := s.runTo_parts time
  have due : s.dueBy time ⊆ s.pending := by
    intro q member
    exact (List.mem_filter.mp ((List.mergeSort_perm _ _).mem_iff.mp member)).1
  have ended := stable.conclude_all due keeps.now
  have rest : (s.runTo time).pending ⊆ s.pending := List.filter_sublist.subset
  exact ⟨world ▸ stable.drop rest ended, queued ▸ keeps.queued⟩

theorem giveUp (stable : Stable allowed kept) (still : Pending → Bool)
    (keeps : s.Keeps allowed kept) :
    ({ s with pending := s.pending.filter still } : Session).Keeps allowed kept :=
  ⟨stable.drop (List.filter_sublist.subset) keeps.now, keeps.queued⟩

theorem beginQueued (stable : Stable allowed kept) (keeps : s.Keeps allowed kept) :
    s.beginQueued.Keeps allowed kept :=
  s.beginQueued_induction (motive := fun t => t.Keeps allowed kept) ⟨keeps.now, by simp⟩
    fun _ kept p member => stable.launch (keeps.queued p member) kept

theorem advance (stable : Stable allowed kept) (ms : Nat) (keeps : s.Keeps allowed kept) :
    (s.advance ms).Keeps allowed kept :=
  stable.runTo _ (stable.beginQueued keeps)

/-! ### One check -/

theorem check (stable : Stable allowed kept) (ours : allowed p) (keeps : s.Keeps allowed kept)
    {outcome : Outcome} (ended : s.check p = some (t, outcome)) : t.Keeps allowed kept := by
  have begun := stable.launch ours keeps
  unfold Session.check at ended
  split at ended
  · cases ended
  · rename_i u after effects outcome launched
    rw [launched] at begun
    obtain ⟨rfl, -⟩ := Prod.mk.inj (Option.some.inj ended)
    split
    · exact begun
    · exact stable.advance _ begun

theorem safeCheck (stable : Stable allowed kept) (ours : allowed p) (keeps : s.Keeps allowed kept)
    {reply : Reply} (ended : s.safeCheck p = some (t, reply)) : t.Keeps allowed kept := by
  obtain ⟨⟨u, outcome⟩, checked, same⟩ := Option.map_eq_some_iff.mp ended
  obtain ⟨rfl, -⟩ := Prod.mk.inj same
  exact stable.check ours keeps checked

/-! ### Rounds -/

variable {r : Roster} {checks : List (String × Probe)}

theorem runFrom (stable : Stable allowed kept) (ours : ∀ e ∈ checks, allowed e.2)
    (keeps : s.Keeps allowed kept) {acc : Results} {ended : Roster.RoundEnd}
    (round : Roster.runFrom s acc checks = some (t, ended)) : t.Keeps allowed kept := by
  induction checks generalizing s acc with
  | nil =>
    obtain ⟨rfl, -⟩ := Prod.mk.inj (Option.some.inj round)
    exact keeps
  | cons e rest ih =>
    obtain ⟨first, later⟩ := List.forall_mem_cons.mp ours
    rw [Roster.runFrom] at round
    split at round
    · split at round
      · cases round
      · rename_i checked
        exact ih later (stable.safeCheck first keeps checked) round
      · rename_i checked
        obtain ⟨rfl, -⟩ := Prod.mk.inj (Option.some.inj round)
        exact stable.safeCheck first keeps checked
    · exact ih later keeps round

theorem launchAll (stable : Stable allowed kept) (ours : ∀ e ∈ checks, allowed e.2)
    (keeps : s.Keeps allowed kept) : (s.launchAll checks).1.Keeps allowed kept := by
  induction checks generalizing s with
  | nil => exact keeps
  | cons e rest ih =>
    obtain ⟨first, later⟩ := List.forall_mem_cons.mp ours
    exact ih later (stable.launch first keeps)

theorem spawnAll (stable : Stable allowed kept) (ours : ∀ e ∈ checks, allowed e.2)
    (keeps : s.Keeps allowed kept) (workers : Workers) :
    (s.spawnAll workers checks).1.Keeps allowed kept := by
  unfold Session.spawnAll
  split
  · exact stable.launchAll ours keeps
  · exact keeps

theorem awaitAll (stable : Stable allowed kept) (keeps : s.Keeps allowed kept)
    (start timeout reported : Nat) (jobs : List Job) :
    (s.awaitAll start timeout reported jobs).1.Keeps allowed kept := by
  obtain ⟨now, queued⟩ := stable.runTo (collect (start + timeout) start jobs).1 keeps
  exact ⟨now, queued⟩

theorem fanOut (stable : Stable allowed kept) (active : ∀ e ∈ r.active s.world, allowed e.2)
    (keeps : s.Keeps allowed kept) (workers : Workers) (timeout : Nat) :
    (r.fanOut s workers timeout).1.Keeps allowed kept := by
  unfold Roster.fanOut
  dsimp only
  split
  · refine ⟨keeps.now, fun q member => ?_⟩
    rcases List.mem_append.mp member with old | new
    · exact keeps.queued q old
    · obtain ⟨e, running, rfl⟩ := List.mem_map.mp new
      exact active e running
  · refine stable.awaitAll (stable.spawnAll active ?_ workers) ..
    split
    · exact keeps
    · exact stable.beginQueued keeps

theorem fanOutCut (stable : Stable allowed kept) (active : ∀ e ∈ r.active s.world, allowed e.2)
    (keeps : s.Keeps allowed kept) (workers : Workers) (timeout time : Nat) :
    (r.fanOutCut s workers timeout time).1.Keeps allowed kept := by
  have cut : ∀ jobs, ((s.spawnAll workers (r.active s.world)).1.cutAt workers time jobs).1.Keeps
      allowed kept := by
    intro jobs
    have spawned := stable.spawnAll active keeps workers
    unfold Session.cutAt
    split
    · exact stable.giveUp _ spawned
    · exact spawned
  exact stable.awaitAll (cut _) ..

theorem evaluate (stable : Stable allowed kept) (ours : ∀ e ∈ r.checks.entries, allowed e.2)
    (keeps : s.Keeps allowed kept) {e : Evaluation} {answer : Answer}
    (evaluated : r.evaluate? s e = some (t, answer)) : t.Keeps allowed kept := by
  have active : ∀ e ∈ r.active s.world, allowed e.2 := fun e member =>
    ours e (List.mem_filter.mp member).1
  cases e with
  | run =>
    obtain ⟨⟨u, ended⟩, round, same⟩ := Option.map_eq_some_iff.mp evaluated
    obtain ⟨rfl, -⟩ := Prod.mk.inj same
    exact stable.runFrom ours keeps round
  | runOne name =>
    obtain ⟨⟨u, told⟩, checked, same⟩ := Option.map_eq_some_iff.mp evaluated
    obtain ⟨rfl, -⟩ := Prod.mk.inj same
    unfold Roster.runOne at checked
    split at checked
    · obtain ⟨rfl, -⟩ := Prod.mk.inj (Option.some.inj checked)
      exact keeps
    · rename_i p found
      obtain ⟨⟨v, reply⟩, ended, same⟩ := Option.map_eq_some_iff.mp checked
      obtain ⟨rfl, -⟩ := Prod.mk.inj same
      exact stable.safeCheck (ours _ (NameMap.mem_of_find? found)) keeps ended
  | fanOut workers timeout =>
    obtain ⟨rfl, -⟩ := Prod.mk.inj (Option.some.inj evaluated)
    exact stable.fanOut active keeps workers timeout
  | fanOutCut workers timeout time =>
    obtain ⟨rfl, -⟩ := Prod.mk.inj (Option.some.inj evaluated)
    exact stable.fanOutCut active keeps workers timeout time

/-! ### Histories -/

theorem move (stable : Stable allowed kept) {m : Move} (ours : ∀ p ∈ m.checks, allowed p)
    (keeps : s.Keeps allowed kept) {answer : Answer} (moved : s.move? m = some (t, answer)) :
    t.Keeps allowed kept := by
  cases m with
  | begin p =>
    obtain ⟨rfl, -⟩ := Prod.mk.inj (Option.some.inj moved)
    exact stable.launch (ours p (by simp [Move.checks])) keeps
  | check p =>
    obtain ⟨⟨u, outcome⟩, ended, same⟩ := Option.map_eq_some_iff.mp moved
    obtain ⟨rfl, -⟩ := Prod.mk.inj same
    exact stable.check (ours p (by simp [Move.checks])) keeps ended
  | safeCheck p =>
    obtain ⟨⟨u, reply⟩, ended, same⟩ := Option.map_eq_some_iff.mp moved
    obtain ⟨rfl, -⟩ := Prod.mk.inj same
    exact stable.safeCheck (ours p (by simp [Move.checks])) keeps ended
  | evaluate r e =>
    refine stable.evaluate (fun e member => ours e.2 ?_) keeps moved
    exact List.mem_map_of_mem member
  | switch id on =>
    obtain ⟨rfl, -⟩ := Prod.mk.inj (Option.some.inj moved)
    exact ⟨stable.switch id on keeps.now, keeps.queued⟩
  | shutdown workers =>
    obtain ⟨rfl, -⟩ := Prod.mk.inj (Option.some.inj moved)
    unfold Session.shutdown
    split
    · exact ⟨stable.drop (List.nil_subset _) keeps.now, keeps.queued⟩
    · exact keeps
  | advance ms =>
    obtain ⟨rfl, -⟩ := Prod.mk.inj (Option.some.inj moved)
    exact stable.advance ms keeps

theorem play (stable : Stable allowed kept) {h : List Move}
    (ours : ∀ m ∈ h, ∀ p ∈ m.checks, allowed p) (keeps : s.Keeps allowed kept)
    {answers : List Answer} (played : s.play? h = some (t, answers)) : t.Keeps allowed kept := by
  induction h generalizing s answers with
  | nil =>
    obtain ⟨rfl, -⟩ := Prod.mk.inj (Option.some.inj played)
    exact keeps
  | cons m rest ih =>
    obtain ⟨first, later⟩ := List.forall_mem_cons.mp ours
    obtain ⟨⟨u, answer⟩, moved, played⟩ := Option.bind_eq_some_iff.mp played
    obtain ⟨⟨v, others⟩, continued, same⟩ := Option.map_eq_some_iff.mp played
    obtain ⟨rfl, -⟩ := Prod.mk.inj same
    exact ih later (stable.move first keeps moved) continued

end Stable

/-! ### Places that a history does not touch -/

theorem stable_place (place : Place) (value : Tally ⊕ Cell) :
    Stable (fun p => place ∉ p.places)
      fun w pending => w.read place = value ∧ ∀ q ∈ pending, q.touches place = false where
  begin := by
    intro p w pending due outside kept
    refine ⟨(Probe.read_begin outside w).trans kept.1, fun q member => ?_⟩
    rcases List.mem_append.mp member with old | new
    · exact kept.2 q old
    · obtain rfl := List.mem_singleton.mp new
      rw [Pending.touches_eq_false]
      exact fun e writer writes => outside (p.within_begin w e writer place writes)
  conclude := fun member kept =>
    ⟨(Effect.read_applyAll (Pending.touches_eq_false.mp (kept.2 _ member)) _).trans kept.1, kept.2⟩
  drop := fun inside kept => ⟨kept.1, fun q member => kept.2 q (inside member)⟩
  switch := by
    intro w pending id on kept
    have read : (w.switch id on).read place = w.read place := by cases place <;> rfl
    exact ⟨read.trans kept.1, kept.2⟩

namespace Session

variable {s t : Session} {place : Place} {value : Tally ⊕ Cell}

theorem keeps_place_iff :
    s.Keeps (fun p => place ∉ p.places)
        (fun w pending => w.read place = value ∧ ∀ q ∈ pending, q.touches place = false) ↔
      s.Spares place ∧ s.world.read place = value := by
  have quiet : (∀ q ∈ s.pending, q.touches place = false) ↔ s.outstanding place = [] := by
    simp [outstanding, List.filter_eq_nil_iff]
  constructor
  · exact fun keeps => ⟨⟨quiet.mp keeps.now.2, keeps.queued⟩, keeps.now.1⟩
  · exact fun kept => ⟨⟨kept.2, quiet.mpr kept.1.free⟩, kept.1.queued⟩

theorem move?_spared {m : Move} {answer : Answer} (outside : ∀ p ∈ m.checks, place ∉ p.places)
    (spares : s.Spares place) (moved : s.move? m = some (t, answer)) :
    t.Spares place ∧ t.world.read place = s.world.read place :=
  keeps_place_iff.mp ((stable_place place _).move outside (keeps_place_iff.mpr ⟨spares, rfl⟩) moved)

end Session

end HealthWatch
