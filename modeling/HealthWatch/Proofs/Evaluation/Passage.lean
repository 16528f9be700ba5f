import HealthWatch.Proofs.Evaluation.Calls
import HealthWatch.Proofs.Evaluation.Settling

/-!
# What happens between two states of a session

A `Passage` leads from one state of a session to another and accounts for all calls: those in
progress and those that begin on the way end in the order of their ends, each at its own time and
once, and what has not ended is still in progress. To begin a check and to let the clock run are
passages, and so are passages one after another.
-/

namespace HealthWatch

/-- A check that has begun: when, and in which world. -/
structure Call where
  at_ : Nat
  probe : Probe
  world : World

namespace Call

def course (c : Call) : Course :=
  (c.probe.begin c.world).2

/-- The end of the call and what it then does. -/
def ending? (c : Call) : Option Pending :=
  match c.course with
  | .never => none
  | .ends after effects _ => some ⟨c.at_ + after, effects⟩

def calls (c : Call) (id : String) : Bool :=
  c.probe.called? c.world == some id

theorem le_ending? {c : Call} {q : Pending} (ends : c.ending? = some q) : c.at_ ≤ q.due := by
  unfold ending? at ends
  split at ends
  · cases ends
  · obtain rfl := Option.some.inj ends
    exact Nat.le_add_right ..

/-- A call is stored in cells of its own check only. -/
theorem cells_of_ending? {c : Call} {q : Pending} (ends : c.ending? = some q) {key : Cell.Key}
    {v : Verdict} (stores : .stored key v ∈ q.effects) : .cell key ∈ c.probe.places := by
  have within := c.probe.within_begin c.world
  unfold ending? Call.course at ends
  split at ends
  · cases ends
  · rename_i course
    obtain rfl := Option.some.inj ends
    rw [course] at within
    exact within _ stores _ rfl

end Call

/-! ### What ends leave in the world -/

structure World.SameEnds (w w' : World) : Prop where
  finished : ∀ id, (w.tally id).finished = (w'.tally id).finished
  stored : ∀ key, (w.cell key).stored = (w'.cell key).stored

namespace World.SameEnds

variable {w w' w'' : World}

theorem refl (w : World) : w.SameEnds w :=
  ⟨fun _ => rfl, fun _ => rfl⟩

theorem trans (first : w.SameEnds w') (second : w'.SameEnds w'') : w.SameEnds w'' :=
  ⟨fun id => (first.finished id).trans (second.finished id),
    fun key => (first.stored key).trans (second.stored key)⟩

theorem of_begin (p : Probe) (w : World) : (p.begin w).1.SameEnds w := by
  refine ⟨fun id => ?_, stored_begin p w⟩
  induction p generalizing w with
  | leaf l => simp only [Probe.begin, World.begin]; split <;> rfl
  | dying i text => simp only [Probe.begin, World.begin]; split <;> rfl
  | skip key skips inner ih =>
    cases found : (w.cell key).replay? skips with
    | some v => rw [Probe.begin_of_replay found]; rfl
    | none => rw [Probe.begin_of_due found]; exact ih (w.turn key)
  | limit ms inner ih => exact ih w

theorem apply (same : w.SameEnds w') (e : Effect) : (e.apply w).SameEnds (e.apply w') := by
  obtain ⟨finished, stored⟩ := same
  cases e with
  | finished i =>
    refine ⟨fun id => ?_, stored⟩
    simp only [Effect.apply, World.finish]
    split <;> simp [finished]
  | stored key v =>
    refine ⟨finished, fun key' => ?_⟩
    simp only [Effect.apply, World.store]
    split <;> simp [stored]
  | overran ms => exact ⟨finished, stored⟩

theorem applyAll (same : w.SameEnds w') (effects : List Effect) :
    (Effect.applyAll w effects).SameEnds (Effect.applyAll w' effects) := by
  induction effects generalizing w w' with
  | nil => exact same
  | cons e rest ih => exact ih (same.apply e)

end World.SameEnds

theorem Effect.finished_applyAll (effects : List Effect) (w : World) (id : String) :
    ((Effect.applyAll w effects).tally id).finished =
      (w.tally id).finished + effects.count (.finished id) := by
  induction effects generalizing w with
  | nil => rfl
  | cons e rest ih =>
    refine (ih (e.apply w)).trans ?_
    rw [List.count_cons]
    cases e with
    | finished i =>
      by_cases same : i = id
      · simp only [Effect.apply, World.finish, same, if_true, BEq.rfl]
        omega
      · simp [Effect.apply, World.finish, same, Ne.symm same]
    | stored key v => rfl
    | overran ms => rfl

/-! ### Passages -/

/-- All that is in progress ends later than now. -/
def Session.Timely (s : Session) : Prop :=
  ∀ q ∈ s.pending, s.now < q.due

namespace Session.Timely

variable {s : Session}

theorem filter_later (timely : s.Timely) : s.pending.filter (s.now < ·.due) = s.pending := by
  apply List.filter_eq_self.mpr
  intro q member
  exact decide_eq_true (timely q member)

theorem filter_due (timely : s.Timely) : s.pending.filter (·.due ≤ s.now) = [] := by
  apply List.filter_eq_nil_iff.mpr
  intro q member due
  have := timely q member
  have := of_decide_eq_true due
  omega

end Session.Timely

theorem Pending.due_trans (a b c : Pending) (first : decide (a.due ≤ b.due) = true)
    (second : decide (b.due ≤ c.due) = true) : decide (a.due ≤ c.due) = true := by
  simp only [decide_eq_true_eq] at first second ⊢
  exact Nat.le_trans first second

theorem Pending.due_total (a b : Pending) :
    (decide (a.due ≤ b.due) || decide (b.due ≤ a.due)) = true := by
  simp only [Bool.or_eq_true, decide_eq_true_eq]
  exact Nat.le_total a.due b.due

/-- What is due by a time is due by an earlier one, or later. -/
theorem perm_due {t u : Nat} (later : t ≤ u) (all : List Pending) :
    (all.filter (·.due ≤ t) ++ (all.filter (t < ·.due)).filter (·.due ≤ u)).Perm
      (all.filter (·.due ≤ u)) := by
  have parts := List.filter_append_perm (·.due ≤ t) (all.filter (·.due ≤ u))
  rw [List.filter_filter, List.filter_filter] at parts
  rw [List.filter_filter]
  refine List.Perm.trans (.of_eq (congr (congrArg _ ?_) ?_)) parts <;>
  · refine List.filter_congr fun q _ => ?_
    rw [Bool.eq_iff_iff]
    simp only [Bool.and_eq_true, Bool.not_eq_true', decide_eq_true_eq, decide_eq_false_iff_not]
    omega

/-- Leads from one state to another, on the way to which these calls begin. -/
structure Passage (s : Session) (log : List Call) (t : Session) : Prop where
  now : s.now ≤ t.now
  during : ∀ c ∈ log, s.now ≤ c.at_ ∧ c.at_ ≤ t.now
  begun : ∀ id, (t.world.tally id).begun = (s.world.tally id).begun + log.countP (·.calls id)
  pending : t.pending = (s.pending ++ log.filterMap Call.ending?).filter (t.now < ·.due)
  ended : ∃ order : List Pending,
    order.Perm ((s.pending ++ log.filterMap Call.ending?).filter (·.due ≤ t.now)) ∧
    order.Pairwise (·.due ≤ ·.due) ∧
    t.world.SameEnds (Effect.applyAll s.world (order.flatMap (·.effects)))

namespace Passage

variable {s t u : Session} {log more : List Call} {p : Probe}

theorem timely (passage : Passage s log t) : t.Timely := by
  intro q member
  rw [passage.pending] at member
  simpa using (List.mem_filter.mp member).2

/-- How many calls have finished does not depend on the order of their ends. -/
theorem finished (passage : Passage s log t) (id : String) :
    (t.world.tally id).finished = (s.world.tally id).finished +
      (((s.pending ++ log.filterMap Call.ending?).filter (·.due ≤ t.now)).flatMap
        (·.effects)).count (.finished id) := by
  obtain ⟨order, all, -, same⟩ := passage.ended
  rw [same.finished, Effect.finished_applyAll, (all.flatMap_right _).count_eq]

theorem of_same (timely : s.Timely) (now : t.now = s.now) (tally : t.world.tally = s.world.tally)
    (cell : t.world.cell = s.world.cell) (pending : t.pending = s.pending) :
    Passage s [] t where
  now := Nat.le_of_eq now.symm
  during := nofun
  begun id := by rw [tally]; rfl
  pending := by
    rw [pending, now, List.filterMap_nil, List.append_nil, timely.filter_later]
  ended := by
    refine ⟨[], ?_, .nil, fun id => by rw [tally]; rfl, fun key => by rw [cell]; rfl⟩
    rw [now, List.filterMap_nil, List.append_nil, timely.filter_due]

theorem launch (timely : s.Timely) (p : Probe) :
    Passage s [⟨s.now, p, s.world⟩] (s.launch p).1 := by
  have begun : ∀ id,
      ((s.launch p).1.world.tally id).begun = ((p.begin s.world).1.tally id).begun := by
    intro id
    rw [Session.world_launch]
    split
    · exact begun_applyAll ..
    · rfl
  refine ⟨by simp, by simp, fun id => ?_, ?_, ?_⟩
  · rw [begun, Probe.begun_begin, List.countP_singleton, Call.calls]
    simp
  · rw [Session.pending_launch, Session.now_launch, List.filter_append, timely.filter_later,
      List.filterMap_cons, Call.ending?, Call.course]
    rcases (p.begin s.world).2 with _ | ⟨_ | after, effects, outcome⟩ <;> simp [Session.awaiting]
  · have opened := World.SameEnds.of_begin p s.world
    rw [Session.world_launch, Session.now_launch, List.filter_append, timely.filter_due,
      List.nil_append, List.filterMap_cons, Call.ending?, Call.course]
    rcases (p.begin s.world).2 with _ | ⟨_ | after, effects, outcome⟩
    · exact ⟨[], .nil, .nil, opened⟩
    · exact ⟨[⟨s.now, effects⟩], by simp, List.pairwise_singleton .., by
        simpa using opened.applyAll effects⟩
    · exact ⟨[], by simp, .nil, opened⟩

theorem runTo {time : Nat} (later : s.now ≤ time) :
    Passage s [] (s.runTo time) where
  now := later
  during := nofun
  begun id := by rw [(s.runTo_parts time).1, begun_applyAll]; rfl
  pending := by
    rw [List.filterMap_nil, List.append_nil]
    refine List.filter_congr fun q _ => ?_
    rw [Bool.eq_iff_iff, Session.now_runTo]
    simp only [Bool.not_eq_true', decide_eq_true_eq, decide_eq_false_iff_not]
    omega
  ended := by
    refine ⟨s.dueBy time, ?_, ?_, ?_⟩
    · rw [List.filterMap_nil, List.append_nil]
      exact List.mergeSort_perm ..
    · have sorted : (s.dueBy time).Pairwise fun a b => decide (a.due ≤ b.due) = true :=
        List.pairwise_mergeSort Pending.due_trans Pending.due_total _
      exact sorted.imp fun ordered => of_decide_eq_true ordered
    · rw [(s.runTo_parts time).1]
      exact .refl _

theorem trans (first : Passage s log t) (second : Passage t more u) :
    Passage s (log ++ more) u := by
  -- No call of the second part ends before the first part is over, so all ends remain in order.
  have behind : ∀ q ∈ more.filterMap Call.ending?, t.now ≤ q.due := by
    intro q member
    obtain ⟨c, inside, ends⟩ := List.mem_filterMap.mp member
    exact Nat.le_trans (second.during c inside).1 (Call.le_ending? ends)
  refine ⟨Nat.le_trans first.now second.now, ?_, ?_, ?_, ?_⟩
  · intro c member
    rcases List.mem_append.mp member with early | late
    · exact ⟨(first.during c early).1, Nat.le_trans (first.during c early).2 second.now⟩
    · exact ⟨Nat.le_trans first.now (second.during c late).1, (second.during c late).2⟩
  · intro id
    rw [second.begun, first.begun, List.countP_append, Nat.add_assoc]
  · rw [second.pending, first.pending, List.filterMap_append, ← List.append_assoc,
      List.filter_append _ (List.filterMap _ more), List.filter_append (s.pending ++ _),
      List.filter_filter]
    refine congrArg (· ++ _) (List.filter_congr fun q _ => ?_)
    have := second.now
    rw [Bool.eq_iff_iff]
    simp only [Bool.and_eq_true, decide_eq_true_eq]
    omega
  · obtain ⟨order, all, sorted, same⟩ := first.ended
    obtain ⟨order', all', sorted', same'⟩ := second.ended
    refine ⟨order ++ order', ?_, ?_, ?_⟩
    · rw [first.pending] at all'
      rw [List.filterMap_append, ← List.append_assoc, List.filter_append]
      rw [List.filter_append] at all'
      refine (all.append all').trans ?_
      rw [← List.append_assoc]
      exact (perm_due second.now _).append_right _
    · refine List.pairwise_append.mpr ⟨sorted, sorted', fun q early q' late => ?_⟩
      have due := (List.mem_filter.mp (all.mem_iff.mp early)).2
      have due : q.due ≤ t.now := of_decide_eq_true due
      rcases List.mem_append.mp (List.mem_filter.mp (all'.mem_iff.mp late)).1 with old | new
      · have := first.timely q' old
        omega
      · exact Nat.le_trans due (behind q' new)
    · rw [List.flatMap_append, Effect.applyAll_append]
      exact same'.trans (same.applyAll _)

theorem trans_quiet (first : Passage s log t) (second : Passage t [] u) : Passage s log u :=
  log.append_nil ▸ first.trans second

end Passage

/-! ### Checks that begin one after another -/

namespace Session

variable {s : Session}

def launched (s : Session) (checks : List Probe) : Session :=
  checks.foldl (fun s p => (s.launch p).1) s

def callsOf (s : Session) : List Probe → List Call
  | [] => []
  | p :: rest => ⟨s.now, p, s.world⟩ :: (s.launch p).1.callsOf rest

theorem now_launched (s : Session) (checks : List Probe) : (s.launched checks).now = s.now := by
  induction checks generalizing s with
  | nil => rfl
  | cons p rest ih => exact (ih (s.launch p).1).trans (s.now_launch p)

theorem queued_launched (s : Session) (checks : List Probe) :
    (s.launched checks).queued = s.queued := by
  induction checks generalizing s with
  | nil => rfl
  | cons p rest ih => exact (ih (s.launch p).1).trans (s.queued_launch p)

theorem probes_callsOf (s : Session) (checks : List Probe) :
    (s.callsOf checks).map (·.probe) = checks := by
  induction checks generalizing s with
  | nil => rfl
  | cons p rest ih => rw [callsOf, List.map_cons, ih]

theorem at_callsOf (s : Session) (checks : List Probe) :
    ∀ c ∈ s.callsOf checks, c.at_ = s.now := by
  induction checks generalizing s with
  | nil => nofun
  | cons p rest ih =>
    refine List.forall_mem_cons.mpr ⟨rfl, fun c member => ?_⟩
    rw [ih (s.launch p).1 c member, now_launch]

theorem Timely.launched (timely : s.Timely) (checks : List Probe) :
    Passage s (s.callsOf checks) (s.launched checks) := by
  induction checks generalizing s with
  | nil => exact .of_same timely rfl rfl rfl rfl
  | cons p rest ih =>
    have first := Passage.launch timely p
    exact first.trans (ih first.timely)

def unqueued (s : Session) : Session :=
  { s with queued := [] }

theorem beginQueued_eq_launched (s : Session) :
    s.beginQueued = s.unqueued.launched s.queued := rfl

theorem Timely.launched_unqueued (timely : s.Timely) (checks : List Probe) :
    Passage s (s.unqueued.callsOf checks) (s.unqueued.launched checks) := by
  have idle : Passage s [] s.unqueued := .of_same timely rfl rfl rfl rfl
  exact idle.trans (idle.timely.launched checks)

end Session

end HealthWatch
