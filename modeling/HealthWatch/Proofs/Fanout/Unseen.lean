import HealthWatch.Proofs.Evaluation.Moves
import HealthWatch.Proofs.Evaluation.Passage
import HealthWatch.Proofs.Fanout.Waiting

/-!
# What a round does not see

A round sees how often checks have begun, which ones are switched off, and the cells of its skipping
checks. It does not see how many calls have finished or are still in progress: of two sessions that
differ in such things only, or in cells that no check looks at, it makes the same (`Alike.fanOut`).
-/

namespace HealthWatch

theorem filter_mergeSort {α : Type} {le : α → α → Bool}
    (trans : ∀ a b c, le a b = true → le b c = true → le a c = true)
    (total : ∀ a b, (le a b || le b a) = true) (keep : α → Bool) (l : List α) :
    (l.mergeSort le).filter keep = (l.filter keep).mergeSort le := by
  induction l with
  | nil => simp
  | cons a l ih =>
    obtain ⟨front, back, whole, rest, below⟩ := List.mergeSort_cons trans total a l
    rw [rest, List.filter_append] at ih
    rw [whole, List.filter_append]
    cases kept : keep a with
    | false =>
      rw [List.filter_cons_of_neg (by simp [kept]), List.filter_cons_of_neg (by simp [kept]), ih]
    | true =>
      rw [List.filter_cons_of_pos kept, List.filter_cons_of_pos kept]
      obtain ⟨front', back', whole', rest', below'⟩ :=
        List.mergeSort_cons trans total a (l.filter keep)
      have above := (List.pairwise_append.mp
        (whole ▸ List.pairwise_mergeSort trans total (a :: l))).2.1
      have above' := (List.pairwise_append.mp
        (whole' ▸ List.pairwise_mergeSort trans total (a :: l.filter keep))).2.1
      -- Both lists are cut where the elements begin that do not come before `a`.
      have cut : ∀ x y : List α, (∀ b ∈ x, (!le a b) = true) → (∀ b ∈ y, le a b = true) →
          (x ++ y).filter (fun b => !le a b) = x ∧ (x ++ y).filter (le a) = y := by
        intro x y before after
        rw [List.filter_append, List.filter_append, List.filter_eq_self.mpr before,
          List.filter_eq_self.mpr after, List.filter_eq_nil_iff.mpr (by simpa using after),
          List.filter_eq_nil_iff.mpr (by simpa using before)]
        simp
      have first := cut (front.filter keep) (back.filter keep)
        (fun b member => below b (List.mem_filter.mp member).1)
        (fun b member => (List.pairwise_cons.mp above).1 b (List.mem_filter.mp member).1)
      have second := cut front' back' below' (List.pairwise_cons.mp above').1
      rw [ih, rest'] at first
      rw [whole', ← first.1.symm.trans second.1, ← first.2.symm.trans second.2]

/-! ### Worlds -/

def Probe.Clear (hidden : Cell.Key → Prop) (p : Probe) : Prop :=
  ∀ key, .cell key ∈ p.places → ¬hidden key

structure World.Alike (hidden : Cell.Key → Prop) (w w' : World) : Prop where
  off : w'.off = w.off
  begun : ∀ id, (w'.tally id).begun = (w.tally id).begun
  cell : ∀ key, ¬hidden key → w'.cell key = w.cell key

variable {hidden : Cell.Key → Prop} {w w' : World} {p : Probe}

namespace World.Alike

theorem turn (alike : Alike hidden w w') (key : Cell.Key) :
    Alike hidden (w.turn key) (w'.turn key) := by
  refine ⟨alike.off, alike.begun, fun key' visible => ?_⟩
  simp only [World.turn, alike.cell key' visible]

theorem called (alike : Alike hidden w w') (id : String) :
    Alike hidden (w.begin id) (w'.begin id) := by
  refine ⟨alike.off, fun i => ?_, alike.cell⟩
  simp only [World.begin]
  split <;> simp [alike.begun]

theorem apply (alike : Alike hidden w w') (e : Effect) :
    Alike hidden (e.apply w) (e.apply w') := by
  cases e with
  | finished id =>
    refine ⟨alike.off, fun i => ?_, alike.cell⟩
    simp only [Effect.apply, World.finish]
    split <;> simp [alike.begun]
  | stored key v =>
    refine ⟨alike.off, alike.begun, fun key' visible => ?_⟩
    simp only [Effect.apply, World.store, alike.cell key' visible]
  | overran ms => exact alike

theorem applyAll (alike : Alike hidden w w') (effects : List Effect) :
    Alike hidden (Effect.applyAll w effects) (Effect.applyAll w' effects) := by
  induction effects generalizing w w' with
  | nil => exact alike
  | cons e rest ih => exact ih (alike.apply e)

theorem begin (alike : Alike hidden w w') (clear : p.Clear hidden) :
    (p.begin w').2 = (p.begin w).2 ∧ Alike hidden (p.begin w).1 (p.begin w').1 := by
  induction p generalizing w w' with
  | leaf l =>
    refine ⟨?_, alike.called l.id⟩
    simp only [Probe.begin, alike.begun]
  | dying id text => exact ⟨rfl, alike.called id⟩
  | skip key skips inner ih =>
    have visible : ¬hidden key := clear key List.mem_cons_self
    have turned := alike.turn key
    obtain ⟨course, opened⟩ :=
      ih turned fun key' inside => clear key' (List.mem_cons_of_mem _ inside)
    simp only [Probe.begin, alike.cell key visible]
    split
    · exact ⟨rfl, turned⟩
    · exact ⟨congrArg (Course.stored key inner) course, opened⟩
  | limit ms inner ih =>
    obtain ⟨course, opened⟩ := ih alike clear
    exact ⟨congrArg (Course.limited ms inner) course, opened⟩

end World.Alike

/-! ### Sessions -/

def Call.sketch (c : Call) : Nat × Probe × Course :=
  (c.at_, c.probe, c.course)

namespace Session

variable {s t : Session} {key : Cell.Key}

/-- Two sessions in which the same happens, as far as rounds can see. -/
structure Alike (hidden : Cell.Key → Prop) (s t : Session) : Prop where
  now : t.now = s.now
  world : s.world.Alike hidden t.world
  coming : ∀ key, ¬hidden key → t.outstanding (.cell key) = s.outstanding (.cell key)
  queued : t.queued = s.queued
  clear : ∀ q ∈ s.queued, q.Clear hidden

/-- What is at a place in the end depends on what is outstanding there. -/
theorem read_runTo_outstanding (s : Session) (time : Nat) (place : Place) :
    (s.runTo time).world.read place =
      (Effect.applyAll s.world ((((s.outstanding place).filter (·.due ≤ time)).mergeSort
        fun a b => a.due ≤ b.due).flatMap (·.effects))).read place := by
  rw [(s.runTo_parts time).1, read_applyAll_touching, dueBy, filter_mergeSort, List.filter_filter,
    outstanding, List.filter_filter]
  · simp only [Bool.and_comm]
  · exact Pending.due_trans
  · exact Pending.due_total

namespace Alike

theorem launch (alike : s.Alike hidden t) (clear : p.Clear hidden) :
    (s.launch p).1.Alike hidden (t.launch p).1 ∧ (t.launch p).2 = (s.launch p).2 := by
  obtain ⟨course, opened⟩ := alike.world.begin clear
  refine ⟨⟨?_, ?_, fun key visible => ?_, ?_, ?_⟩, ?_⟩
  · rw [now_launch, now_launch, alike.now]
  · rw [world_launch, world_launch, course]
    split
    · exact opened.applyAll _
    · exact opened
  · rw [outstanding_launch, outstanding_launch, alike.coming key visible, course, alike.now]
  · rw [queued_launch, queued_launch, alike.queued]
  · rw [queued_launch]
    exact alike.clear
  · rw [launch_course, launch_course, course]

theorem runTo (alike : s.Alike hidden t) (time : Nat) :
    (s.runTo time).Alike hidden (t.runTo time) := by
  have parts := s.runTo_parts time
  have parts' := t.runTo_parts time
  refine ⟨rfl, ⟨?_, fun id => ?_, fun key visible => ?_⟩, fun key visible => ?_, ?_, ?_⟩
  · rw [off_runTo, off_runTo, alike.world.off]
  · rw [parts.1, parts'.1, begun_applyAll, begun_applyAll, alike.world.begun]
  · have same : t.world.read (.cell key) = s.world.read (.cell key) :=
      congrArg Sum.inr (alike.world.cell key visible)
    have read : (t.runTo time).world.read (.cell key) = (s.runTo time).world.read (.cell key) := by
      rw [read_runTo_outstanding, read_runTo_outstanding, alike.coming key visible]
      exact Effect.read_applyAll_congr _ same
    exact Sum.inr.inj read
  · have later : ∀ u : Session, (u.runTo time).outstanding (.cell key) =
        (u.outstanding (.cell key)).filter fun q => !(q.due ≤ time) := by
      intro u
      simp only [outstanding, Session.runTo, List.filter_filter, Bool.and_comm]
    rw [later, later, alike.coming key visible]
  · rw [parts.2, parts'.2, alike.queued]
  · rw [parts.2]
    exact alike.clear

theorem launchAll (alike : s.Alike hidden t) {checks : List (String × Probe)}
    (clear : ∀ e ∈ checks, e.2.Clear hidden) :
    (s.launchAll checks).1.Alike hidden (t.launchAll checks).1 ∧
      (t.launchAll checks).2 = (s.launchAll checks).2 := by
  induction checks generalizing s t with
  | nil => exact ⟨alike, rfl⟩
  | cons e rest ih =>
    obtain ⟨first, later⟩ := List.forall_mem_cons.mp clear
    obtain ⟨begun, course⟩ := alike.launch first
    obtain ⟨all, jobs⟩ := ih begun later
    have job : Job.ofCourse t.now e.1 e.2 (t.launch e.2).2 =
        Job.ofCourse s.now e.1 e.2 (s.launch e.2).2 := by rw [alike.now, course]
    refine ⟨all, ?_⟩
    simp only [Session.launchAll, job, jobs]

/-- The same calls begin and take the same course. -/
theorem launched (alike : s.Alike hidden t) {checks : List Probe}
    (clear : ∀ p ∈ checks, p.Clear hidden) :
    (s.launched checks).Alike hidden (t.launched checks) ∧
      (t.callsOf checks).map Call.sketch = (s.callsOf checks).map Call.sketch := by
  induction checks generalizing s t with
  | nil => exact ⟨alike, rfl⟩
  | cons p rest ih =>
    obtain ⟨first, later⟩ := List.forall_mem_cons.mp clear
    obtain ⟨all, calls⟩ := ih (alike.launch first).1 later
    refine ⟨all, ?_⟩
    have same := (alike.world.begin first).1
    simp only [callsOf, List.map_cons, calls, Call.sketch, Call.course, alike.now, same]

theorem unqueued (alike : s.Alike hidden t) : s.unqueued.Alike hidden t.unqueued :=
  ⟨alike.now, alike.world, alike.coming, rfl, nofun⟩

theorem beginQueued (alike : s.Alike hidden t) : s.beginQueued.Alike hidden t.beginQueued := by
  rw [beginQueued_eq_launched, beginQueued_eq_launched, alike.queued]
  exact (alike.unqueued.launched alike.clear).1

theorem addReports (alike : s.Alike hidden t) (kept kept' : Nat) (added : List (Nat × Event)) :
    (s.addReports kept added).Alike hidden (t.addReports kept' added) :=
  ⟨alike.now, alike.world, alike.coming, alike.queued, alike.clear⟩

theorem awaitAll (alike : s.Alike hidden t) (start timeout kept kept' : Nat) (jobs : List Job) :
    (s.awaitAll start timeout kept jobs).1.Alike hidden (t.awaitAll start timeout kept' jobs).1 ∧
      (t.awaitAll start timeout kept' jobs).2 = (s.awaitAll start timeout kept jobs).2 :=
  ⟨(alike.runTo _).addReports kept kept' _, rfl⟩

theorem fanOut (alike : s.Alike hidden t) {r : Roster} {workers : Workers}
    (live : workers.isLive = true) (clear : ∀ e ∈ r.checks.entries, e.2.Clear hidden)
    (timeout : Nat) :
    (r.fanOut s workers timeout).1.Alike hidden (r.fanOut t workers timeout).1 ∧
      (r.fanOut t workers timeout).2 = (r.fanOut s workers timeout).2 := by
  have active : r.active t.world = r.active s.world :=
    List.filter_congr fun e _ => e.2.isActive_congr alike.world.off
  have inside : ∀ e ∈ r.active s.world, e.2.Clear hidden :=
    fun e member => clear e (List.mem_filter.mp member).1
  simp only [Roster.fanOut, active, alike.now]
  split
  · refine ⟨⟨alike.now, alike.world, alike.coming, ?_, ?_⟩, rfl⟩
    · simp only [post, alike.queued]
    · intro q member
      rcases List.mem_append.mp member with old | new
      · exact alike.clear q old
      · obtain ⟨e, posted, rfl⟩ := List.mem_map.mp new
        exact inside e posted
  · simp only [spawnAll, live, if_true]
    split
    · obtain ⟨begun, jobs⟩ := alike.launchAll inside
      rw [jobs]
      exact begun.awaitAll ..
    · obtain ⟨begun, jobs⟩ := alike.beginQueued.launchAll inside
      rw [jobs]
      exact begun.awaitAll ..

end Alike

end Session

end HealthWatch
