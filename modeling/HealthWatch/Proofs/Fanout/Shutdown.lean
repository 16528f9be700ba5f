import HealthWatch.Proofs.Fanout.Chronicle

/-!
# Rounds whose pool is shut down

`gathering_truthful` says what a round on an owned pool reports, in whatever order its tasks end,
the pool is shut down, the deadline passes and the caller looks: one entry for each active check.
What happened before the deadline is reported in any case. A check that was still open then is
reported as timed out if it is open when the caller looks at it, and `overtime_reported` is a round
in which one is not.
-/

namespace HealthWatch

open Gathering (Step fate? looked)

namespace Gathering

variable {workers : Workers} {names : List String} {before after : List Step} {g : Gathering}
  {name : String}

theorem truthful_of_prefix (owned : workers.isOwned = true) (ascending : names.Pairwise (· < ·))
    (taken : (begin workers names).steps? (before ++ after) = some g) :
    ∃ middle, Truthful names before middle ∧ middle.steps? after = some g := by
  rw [steps?_append] at taken
  obtain ⟨middle, reached, taken⟩ := Option.bind_eq_some_iff.mp taken
  exact ⟨middle, (truthful_begin owned names).steps ascending reached, taken⟩

theorem fate?_of_first {step : Step} {fate : Awaited} (nothing : fate? name before = none)
    (settles : step.settles? name = some fate) : fate? name (before ++ step :: after) = some fate := by
  rw [fate?_append, nothing, Option.none_or, fate?, List.findSome?_cons, settles]

/-- Only the shutdown and a look settle a check whose task has not ended by itself. -/
theorem settled_of_unended (unended : ∀ reply, .finish name reply ∉ before) {fate : Awaited}
    (settled : fate? name before = some fate) :
    (.shutdown ∈ before ∧ fate = .ended .cancelled) ∨ (.look name ∈ before ∧ fate = .late) := by
  obtain ⟨step, member, settles⟩ := List.exists_of_findSome?_eq_some settled
  cases step with
  | finish n reply =>
    rw [Step.settles?] at settles
    split at settles
    · rename_i same
      exact absurd (same ▸ member) (unended reply)
    · cases settles
  | shutdown => exact .inl ⟨member, (Option.some.inj settles).symm⟩
  | look n =>
    rw [Step.settles?] at settles
    split at settles
    · rename_i same
      exact .inr ⟨same ▸ member, (Option.some.inj settles).symm⟩
    · cases settles
  | spawn => cases settles
  | deadline => cases settles

/-- A task that ends before the deadline, or later but before the caller looks, is settled by that:
nothing ends after a shutdown. -/
theorem fate?_of_finish (owned : workers.isOwned = true) (ascending : names.Pairwise (· < ·))
    {reply : Reply}
    (taken : (begin workers names).steps? (before ++ .finish name reply :: after) = some g)
    (unseen : .deadline ∉ before ∨ .look name ∉ before) :
    name ∈ names ∧ fate? name (before ++ .finish name reply :: after) =
      some (.ended (.ofReply reply)) := by
  obtain ⟨middle, truthful, taken⟩ := truthful_of_prefix owned ascending taken
  obtain ⟨next, finished, -⟩ := Option.bind_eq_some_iff.mp taken
  rw [step?, finish?] at finished
  split at finished
  case isFalse => cases finished
  rename_i open_
  obtain ⟨spawned, unended⟩ := open_
  have nothing : fate? name before = none := by
    rcases List.mem_append.mp (truthful.inOrder ▸ spawned) with told | waited
    · have late := truthful.late name (truthful.givenUp name told unended)
      exact absurd unseen (by simp [late, mem_looked.mp told])
    · rw [truthful.seen name waited, unended, Option.map_none]
  exact ⟨truthful.complete ▸ List.mem_append_left _ spawned, fate?_of_first nothing (if_pos rfl)⟩

/-- A shutdown before the deadline, or later but before the caller looks, cancels a task that has
not ended. -/
theorem fate?_of_shutdown (owned : workers.isOwned = true) (ascending : names.Pairwise (· < ·))
    (taken : (begin workers names).steps? (before ++ .shutdown :: after) = some g)
    (unended : ∀ reply, .finish name reply ∉ before)
    (unseen : .deadline ∉ before ∨ .look name ∉ before) :
    fate? name (before ++ .shutdown :: after) = some (.ended .cancelled) := by
  obtain ⟨middle, truthful, -⟩ := truthful_of_prefix owned ascending taken
  cases first : fate? name before with
  | none => exact fate?_of_first first rfl
  | some fate =>
    rcases settled_of_unended unended first with ⟨-, rfl⟩ | ⟨told, rfl⟩
    · rw [fate?_append, first, Option.some_or]
    · exact absurd unseen (by simp [told, truthful.late name first])

/-- A look at a task that nothing has happened to comes after the deadline. -/
theorem fate?_of_look (owned : workers.isOwned = true) (ascending : names.Pairwise (· < ·))
    (taken : (begin workers names).steps? (before ++ .look name :: after) = some g)
    (up : .shutdown ∉ before) (unended : ∀ reply, .finish name reply ∉ before) :
    .deadline ∈ before ∧ fate? name (before ++ .look name :: after) = some .late := by
  obtain ⟨middle, truthful, taken⟩ := truthful_of_prefix owned ascending taken
  obtain ⟨next, looks, -⟩ := Option.bind_eq_some_iff.mp taken
  obtain ⟨rest, -, waiting, found, finds, -⟩ := look?_eq_some looks
  have waited : name ∈ middle.awaiting := waiting ▸ List.mem_cons_self
  have nothing : fate? name before = none := by
    refine Option.eq_none_iff_forall_ne_some.mpr fun fate settled => ?_
    rcases settled_of_unended unended settled with ⟨stopped, -⟩ | ⟨-, rfl⟩
    · exact up stopped
    · rw [truthful.seen name waited] at settled
      obtain ⟨e, -, other⟩ := Option.map_eq_some_iff.mp settled
      cases other
  obtain ⟨fateHere, late⟩ := truthful.fate?_look waited finds
  have settles : Step.settles? name (.look name) = some .late := if_pos rfl
  rw [fate?_of_first nothing settles] at fateHere
  exact ⟨late (Option.some.inj fateHere).symm, fate?_of_first nothing settles⟩

/-- Behind a verdict of its own stands a task that ended with it, first of all. -/
theorem finish_of_fate {h : List Step} {v : Verdict}
    (fate : fate? name h = some (.ended (.verdict v))) :
    ∃ before after, h = before ++ .finish name (.verdict v) :: after ∧ .shutdown ∉ before ∧
      .look name ∉ before := by
  obtain ⟨before, step, after, rfl, settles, silent⟩ := List.findSome?_eq_some_iff.mp fate
  have first : step = .finish name (.verdict v) := by
    cases step with
    | finish n reply =>
      rw [Step.settles?] at settles
      split at settles
      · rename_i same
        cases reply with
        | verdict v' =>
          obtain rfl := JobEnd.verdict.inj (Awaited.ended.inj (Option.some.inj settles))
          rw [same]
        | died text => cases settles
      · cases settles
    | look n =>
      rw [Step.settles?] at settles
      split at settles
      · cases settles
      · cases settles
    | shutdown => cases settles
    | spawn => cases settles
    | deadline => cases settles
  refine ⟨before, after, by rw [first], ?_, ?_⟩
  · intro stopped
    cases silent _ stopped
  · intro told
    exact absurd (silent _ told) (by simp [Step.settles?])

end Gathering

theorem Session.ownEnd_launchAll (s : Session) (checks : List (String × Probe)) :
    ∀ j ∈ (s.launchAll checks).2, ∀ t e, j.ends? = some (t, e) → ∃ reply, e = .ofReply reply := by
  induction checks generalizing s with
  | nil => intro j member; cases member
  | cons check rest ih =>
    intro j member t e ends
    simp only [launchAll, List.mem_cons] at member
    rcases member with this | later
    · obtain ⟨_, _, _, -, -, told⟩ := Job.ends_ofCourse (this ▸ ends)
      exact ⟨_, told⟩
    · exact ih _ j later t e ends

namespace Roster

theorem steps?_chronicleCut {workers : Workers} (owned : workers.isOwned = true) (r : Roster)
    (s : Session) (timeout time : Nat) :
    ∃ g, (Gathering.begin workers ((r.active s.world).map (·.1))).steps?
        (r.chronicleCut s timeout time) = some g ∧
      g.isOver ∧ g.results = (r.fanOutCut s workers timeout time).2 := by
  have names := s.names_launchAll (r.active s.world)
  have ascending : ((s.launchAll (r.active s.world)).2.map Job.name).Pairwise (· < ·) :=
    names ▸ List.pairwise_map.mpr (r.ascending_active s.world)
  obtain ⟨g, taken, returned, entries⟩ := Gathering.steps?_chronicle owned ascending
    (s.ownEnd_launchAll (r.active s.world)) time (s.now + timeout)
  refine ⟨g, names ▸ taken, returned, NameMap.ext (entries.trans ?_)⟩
  have cut := List.map_map (f := fun j : Job => j.cut time) (g := Job.name)
    (l := (s.launchAll (r.active s.world)).2)
  simp only [Function.comp_def, Job.name_cut] at cut
  simp only [fanOutCut, Session.spawnAll, Session.cutAt, (Workers.live_of_owned owned).1, owned,
    if_true]
  rw [Session.entries_awaitAll (cut ▸ ascending), List.map_map]
  simp only [Function.comp_def, Job.name_cut]

/-- In whatever order the tasks of a round end, its pool is shut down, the deadline passes and the
caller looks, the round reports of each active check what happened to it before the deadline, and
else what the caller then finds. -/
theorem gathering_truthful {workers : Workers} (owned : workers.isOwned = true) (r : Roster)
    (w : World) {h : List Step} {g : Gathering}
    (taken : (Gathering.begin workers ((r.active w).map (·.1))).steps? h = some g) :
    -- Once the deadline has passed, the caller can end the round alone.
    (∃ last, g.steps? (.deadline :: g.ownSteps) = some last ∧ last.isOver) ∧
    (g.isOver →
      -- One entry for each check that was active at the begin, and one look at each.
      g.results.names = (r.active w).map (·.1) ∧
      looked h = (r.active w).map (·.1) ∧
      -- The task ended by itself before the deadline, or after it and before the look.
      (∀ before name v after, h = before ++ .finish name (.verdict v) :: after →
        (.deadline ∉ before ∨ .look name ∉ before) → g.results.find? name = some v) ∧
      (∀ before name text after, h = before ++ .finish name (.died text) :: after →
        (.deadline ∉ before ∨ .look name ∉ before) → g.results.find? name = some (.critical
          ("health check task failed: task # panicked with message " ++ Text.quoted text))) ∧
      -- The pool was shut down before the end of the task, and before the deadline or the look.
      (∀ before after, h = before ++ .shutdown :: after →
        ∀ name ∈ (r.active w).map (·.1), (∀ reply, .finish name reply ∉ before) →
          (.deadline ∉ before ∨ .look name ∉ before) → g.results.find? name =
            some (.critical "health check task failed: task # was cancelled")) ∧
      -- The task was still going on when the caller looked, after the deadline.
      (∀ before name after, h = before ++ .look name :: after → .shutdown ∉ before →
        (∀ reply, .finish name reply ∉ before) →
          .deadline ∈ before ∧
          g.results.find? name = some (.critical "health check timed out")) ∧
      -- An entry that is not critical was the verdict of a task that ended before all that.
      (∀ name v, (name, v) ∈ g.results.entries → v.status ≠ .critical →
        ∃ before after, h = before ++ .finish name (.verdict v) :: after ∧
          .shutdown ∉ before ∧ .look name ∉ before)) ∧
    -- The rounds of a session take their steps in the order of time.
    (∀ s : Session, s.world = w → ∀ timeout time, ∃ last,
      (Gathering.begin workers ((r.active w).map (·.1))).steps? (r.chronicleCut s timeout time) =
        some last ∧
      last.isOver ∧ last.results = (r.fanOutCut s workers timeout time).2) := by
  have ascending : ((r.active w).map (·.1)).Pairwise (· < ·) :=
    List.pairwise_map.mpr (r.ascending_active w)
  have truthful := (Gathering.truthful_begin owned _).steps ascending taken
  rw [List.nil_append] at truthful
  refine ⟨g.steps?_deadline_ownSteps,
    fun returned => ⟨?_, truthful.isOver_iff.mp returned, ?_, ?_, ?_, ?_, ?_⟩, ?_⟩
  · rw [NameMap.names, (truthful.entries_of_isOver returned).1, List.map_map, Function.comp_def]
    exact List.map_id' _
  · rintro before name v after rfl unseen
    obtain ⟨member, fate⟩ := Gathering.fate?_of_finish owned ascending taken unseen
    exact truthful.find?_of_fate returned member fate
  · rintro before name text after rfl unseen
    obtain ⟨member, fate⟩ := Gathering.fate?_of_finish owned ascending taken unseen
    exact truthful.find?_of_fate returned member fate
  · rintro before after rfl name member unended unseen
    exact truthful.find?_of_fate returned member
      (Gathering.fate?_of_shutdown owned ascending taken unended unseen)
  · rintro before name after rfl up unended
    obtain ⟨passed, fate⟩ := Gathering.fate?_of_look owned ascending taken up unended
    have told : name ∈ looked (before ++ .look name :: after) :=
      Gathering.mem_looked.mpr (List.mem_append_right before List.mem_cons_self)
    exact ⟨passed, truthful.find?_of_fate returned (truthful.isOver_iff.mp returned ▸ told) fate⟩
  · intro name v entry uncritical
    obtain ⟨entries, settled⟩ := truthful.entries_of_isOver returned
    rw [entries] at entry
    obtain ⟨name, member, same⟩ := List.mem_map.mp entry
    obtain ⟨rfl, rfl⟩ := Prod.mk.inj same
    obtain ⟨fate, found⟩ := Option.isSome_iff_exists.mp (settled name member)
    rw [Gathering.sentence_of_fate found] at uncritical ⊢
    cases fate with
    | late => exact absurd rfl uncritical
    | ended e =>
      cases e with
      | verdict v => exact Gathering.finish_of_fate found
      | panicked text => exact absurd rfl uncritical
      | cancelled => exact absurd rfl uncritical
  · rintro s rfl timeout time
    exact r.steps?_chronicleCut owned s timeout time

/-- A check that answers, one that dies and one that is too slow. -/
def trio : Roster :=
  ⟨.ofList [
    ("db", .leaf ⟨"db", fun _ => .finish 10 (.verdict .healthy), true⟩),
    ("dies", .dying "dies" "boom"),
    ("slow", .leaf ⟨"slow", fun _ => .hang, true⟩)]⟩

/-- The deadline passes while all tasks of `trio` run. One ends before the caller comes to it, and
one is cancelled only then. -/
def overtime : List Step :=
  [.spawn, .spawn, .spawn, .deadline, .finish "db" (.verdict .healthy), .look "db", .look "dies",
    .shutdown, .look "slow"]

/-- A check that is outstanding at the deadline need not be reported as timed out. -/
theorem overtime_reported :
    overtime = [.spawn, .spawn, .spawn] ++ .deadline :: overtime.drop 4 ∧
    ∃ g, (Gathering.begin ⟨2, .running⟩ ((trio.active .fresh).map (·.1))).steps? overtime = some g ∧
      g.isOver ∧ g.results.entries =
        [("db", .healthy), ("dies", .critical "health check timed out"),
          ("slow", .critical "health check task failed: task # was cancelled")] := by
  refine ⟨rfl, _, rfl, ⟨rfl, rfl⟩, ?_⟩
  decide +kernel

/-- The pool is shut down while the caller has seen one end of two, and the last task is found
cancelled after the deadline. -/
def cutShort : List Step :=
  [.spawn, .spawn, .finish "db" (.verdict .healthy), .spawn, .look "db",
    .finish "dies" (.died "boom"), .shutdown, .deadline, .look "dies", .look "slow"]

theorem gathering_truthful_cutShort :
    ∃ g, (Gathering.begin ⟨2, .running⟩ ((trio.active .fresh).map (·.1))).steps? cutShort = some g ∧
      g.isOver ∧ g.results.names = ["db", "dies", "slow"] ∧
      g.results.find? "db" = some .healthy ∧
      g.results.find? "dies" = some (.critical
        ("health check task failed: task # panicked with message " ++ Text.quoted "boom")) ∧
      g.results.find? "slow" =
        some (.critical "health check task failed: task # was cancelled") := by
  have names : (trio.active .fresh).map (·.1) = ["db", "dies", "slow"] := by decide +kernel
  obtain ⟨g, taken, returned⟩ : ∃ g, (Gathering.begin ⟨2, .running⟩
      ((trio.active .fresh).map (·.1))).steps? cutShort = some g ∧ g.isOver :=
    ⟨_, rfl, rfl, rfl⟩
  obtain ⟨-, round, -⟩ := gathering_truthful rfl trio .fresh taken
  obtain ⟨complete, -, own, panicked, cancelled, -, -⟩ := round returned
  refine ⟨g, taken, returned, complete.trans names, ?_, ?_, ?_⟩
  · exact own [.spawn, .spawn] "db" .healthy _ rfl (.inl (by decide))
  · exact panicked [.spawn, .spawn, .finish "db" (.verdict .healthy), .spawn, .look "db"] "dies"
      "boom" _ rfl (.inl (by decide))
  · refine cancelled (cutShort.take 6) _ rfl "slow" (by rw [names]; decide) ?_ (.inl (by decide))
    intro reply
    simp [cutShort]

end Roster

end HealthWatch
