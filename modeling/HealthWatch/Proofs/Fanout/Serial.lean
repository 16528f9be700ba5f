import HealthWatch.Proofs.Evaluation.Settling
import HealthWatch.Proofs.Fanout.Pointwise

/-!
# Serial and fanned-out rounds

A round may evaluate its checks one after another or all at once. When they share no state and all
of them end before the deadline, that makes no difference: `run_agrees_fanOut` says that both rounds
return the same results and leave the same behind. Each is compared with what every check does
alone: `Evaluated` says that the active checks have been evaluated once and the others not at all.
-/

namespace HealthWatch

open World (Agree)

/-- The check goes through the protected evaluation: however it ends, its caller gets a verdict. -/
def Probe.Guarded (p : Probe) : Prop :=
  ∀ outcome, p.reply outcome = .verdict outcome.caught

theorem Probe.guarded_or_dies (p : Probe) :
    p.Guarded ∨ ∃ text, ∀ outcome, p.reply outcome = .died text := by
  cases p with
  | dying id text => exact .inr ⟨text, fun _ => rfl⟩
  | leaf l => exact .inl fun _ => rfl
  | skip key skips inner => exact .inl fun _ => rfl
  | limit ms inner => exact .inl fun _ => rfl

/-- The verdict on a check that is waited for as long as it takes. -/
def Course.verdict : Course → Verdict
  | .never => .timedOut
  | .ends _ _ outcome => outcome.caught

/-- What a round leaves of checks that share no state: the active ones have been evaluated once,
the others not at all, and nothing goes on. -/
structure Evaluated (checks : List (String × Probe)) (w : World) (t : Session) : Prop where
  off : t.world.off = w.off
  active : ∀ e ∈ checks, e.2.isActive w = true → Agree e.2.places t.world (e.2.settled w)
  inactive : ∀ e ∈ checks, e.2.isActive w = false → Agree e.2.places t.world w
  spares : ∀ e ∈ checks, ∀ place ∈ e.2.places, t.Spares place

variable {checks : List (String × Probe)} {w : World}

theorem Evaluated.agree {t u : Session} (first : Evaluated checks w t)
    (second : Evaluated checks w u)
    {e : String × Probe} (member : e ∈ checks) : Agree e.2.places t.world u.world := by
  intro place inside
  cases active : e.2.isActive w with
  | true =>
    rw [first.active e member active place inside, second.active e member active place inside]
  | false =>
    rw [first.inactive e member active place inside, second.inactive e member active place inside]

/-! ### One after another -/

namespace Roster

theorem off_safeCheck {s t : Session} {p : Probe} {reply : Reply}
    (ended : s.safeCheck p = some (t, reply)) : t.world.off = s.world.off := by
  rw [Session.safeCheck_eq] at ended
  split at ended
  · cases ended
  · obtain ⟨rfl, -⟩ := Prod.mk.inj (Option.some.inj ended)
    split
    · exact s.off_launch p
    · rw [Session.advance, Session.off_runTo, (Session.beginQueued_parts _).2, s.off_launch p]

theorem runFrom_evaluated (separate : checks.Pairwise fun a b => a.2.Apart b.2)
    (guarded : ∀ e ∈ checks, e.2.Guarded)
    (ends : ∀ e ∈ checks, e.2.isActive w = true → (e.2.begin w).2 ≠ .never) {s : Session}
    (acc : Results) (off : s.world.off = w.off)
    (agree : ∀ e ∈ checks, Agree e.2.places s.world w)
    (spares : ∀ e ∈ checks, ∀ place ∈ e.2.places, s.Spares place) :
    ∃ t, runFrom s acc checks = some (t, .results ((checks.filter (·.2.isActive w)).foldl
        (fun m e => m.insert e.1 (e.2.begin w).2.verdict) acc)) ∧
      Evaluated checks w t ∧
      ∀ place, s.Spares place → t.Spares place ∧
        ((∀ e ∈ checks, place ∉ e.2.places) → t.world.read place = s.world.read place) := by
  induction checks generalizing s acc with
  | nil =>
    exact ⟨s, rfl, ⟨off, by simp, by simp, by simp⟩, fun place spared => ⟨spared, fun _ => rfl⟩⟩
  | cons e rest ih =>
    obtain ⟨apart, separate⟩ := List.pairwise_cons.mp separate
    obtain ⟨ours, guarded⟩ := List.forall_mem_cons.mp guarded
    obtain ⟨end_, ends⟩ := List.forall_mem_cons.mp ends
    obtain ⟨same, agree⟩ := List.forall_mem_cons.mp agree
    obtain ⟨spared, spares⟩ := List.forall_mem_cons.mp spares
    have elsewhere : ∀ place ∈ e.2.places, ∀ f ∈ rest, place ∉ f.2.places :=
      fun place member f other => apart f other place member
    rw [runFrom, e.2.isActive_congr off, List.filter_cons]
    cases active : e.2.isActive w with
    | false =>
      obtain ⟨t, round, evaluated, frame⟩ := ih separate guarded ends acc off agree spares
      refine ⟨t, by simpa using round, ⟨evaluated.off, ?_, ?_, ?_⟩, ?_⟩
      · exact List.forall_mem_cons.mpr ⟨by simp [active], evaluated.active⟩
      · refine List.forall_mem_cons.mpr ⟨fun _ place member => ?_, evaluated.inactive⟩
        exact ((frame place (spared place member)).2 (elsewhere place member)).trans
          (same place member)
      · exact List.forall_mem_cons.mpr
          ⟨fun place member => (frame place (spared place member)).1, evaluated.spares⟩
      · intro place free
        obtain ⟨kept, read⟩ := frame place free
        exact ⟨kept, fun outside => read fun f other => outside f (List.mem_cons_of_mem _ other)⟩
    | true =>
      have course := (Probe.begin_agree (List.Subset.refl _) same).1
      cases ending : (e.2.begin w).2 with
      | never => exact absurd ending (end_ active)
      | ends after effects outcome =>
        obtain ⟨u, ended⟩ : ∃ u, s.safeCheck e.2 = some (u, .verdict outcome.caught) := by
          rw [Session.safeCheck_eq, course, ending]
          exact ⟨_, congrArg (fun reply => some (_, reply)) (ours outcome)⟩
        have left : ∀ place, s.Spares place →
            u.world.read place = (e.2.settled s.world).read place ∧ u.Spares place :=
          fun place free => Session.safeCheck_spared free ended
        have undisturbed : ∀ place, s.Spares place → place ∉ e.2.places →
            u.world.read place = s.world.read place :=
          fun place free outside => (left place free).1.trans (Probe.read_settled outside _)
        obtain ⟨t, round, evaluated, frame⟩ :=
          ih separate guarded ends (acc.insert e.1 outcome.caught)
            ((off_safeCheck ended).trans off)
            (fun f other place member =>
              (undisturbed place (spares f other place member)
                ((apart f other).symm place member)).trans (agree f other place member))
            (fun f other place member => (left place (spares f other place member)).2)
        refine ⟨t, ?_, ⟨evaluated.off, ?_, ?_, ?_⟩, ?_⟩
        · simpa [ended, ending, Course.verdict] using round
        · refine List.forall_mem_cons.mpr ⟨fun _ place member => ?_, evaluated.active⟩
          obtain ⟨read, free⟩ := left place (spared place member)
          exact ((frame place free).2 (elsewhere place member)).trans
            (read.trans (Probe.settled_agree same place member))
        · exact List.forall_mem_cons.mpr ⟨by simp [active], evaluated.inactive⟩
        · refine List.forall_mem_cons.mpr ⟨fun place member => ?_, evaluated.spares⟩
          exact (frame place (left place (spared place member)).2).1
        · intro place free
          obtain ⟨kept, read⟩ := frame place (left place free).2
          refine ⟨kept, fun outside => ?_⟩
          obtain ⟨outsideOwn, outside⟩ := List.forall_mem_cons.mp outside
          exact (read outside).trans (undisturbed place free outsideOwn)

end Roster

/-! ### All at once -/

theorem Job.verdict_ofCourse {now after timeout : Nat} {name : String} {p : Probe}
    {effects : List Effect} {outcome : Outcome} (guarded : p.Guarded) (early : after ≤ timeout) :
    ((Job.ofCourse now name p (.ends after effects outcome)).seen (now + timeout)).verdict =
      outcome.caught := by
  simp [Job.ofCourse, Job.seen, early, guarded outcome, JobEnd.ofReply, Awaited.verdict]

namespace Session

theorem settled_le_collect {deadline : Nat} {jobs : List Job} {j : Job} (member : j ∈ jobs)
    (now : Nat) : j.settled deadline ≤ (collect deadline now jobs).1 := by
  induction jobs generalizing now with
  | nil => cases member
  | cons k rest ih =>
    simp only [collect, Job.await_eq]
    rcases List.mem_cons.mp member with rfl | later
    · exact Nat.le_trans (Nat.le_max_right ..) (le_collect ..)
    · exact ih later _

theorem off_launchAll (s : Session) (checks : List (String × Probe)) :
    (s.launchAll checks).1.world.off = s.world.off := by
  induction checks generalizing s with
  | nil => rfl
  | cons e rest ih => exact (ih (s.launch e.2).1).trans (s.off_launch e.2)

theorem queued_launchAll (s : Session) (checks : List (String × Probe)) :
    (s.launchAll checks).1.queued = s.queued := by
  induction checks generalizing s with
  | nil => rfl
  | cons e rest ih => exact (ih (s.launch e.2).1).trans (s.queued_launch e.2)

theorem launchAll_other {place : Place} (outside : ∀ e ∈ checks, place ∉ e.2.places)
    (s : Session) :
    (s.launchAll checks).1.world.read place = s.world.read place ∧
      (s.launchAll checks).1.outstanding place = s.outstanding place := by
  induction checks generalizing s with
  | nil => exact ⟨rfl, rfl⟩
  | cons e rest ih =>
    obtain ⟨first, later⟩ := List.forall_mem_cons.mp outside
    obtain ⟨read, free⟩ := ih later (s.launch e.2).1
    exact ⟨read.trans (read_launch first s), free.trans (outstanding_launch_other first s)⟩

/-- Each check of a round will leave what it leaves alone. -/
theorem launchAll_foreseen (separate : checks.Pairwise fun a b => a.2.Apart b.2) {s : Session}
    (agree : ∀ e ∈ checks, Agree e.2.places s.world w) :
    let t := (s.launchAll checks).1
    ∀ e ∈ checks, ∀ place ∈ e.2.places, s.outstanding place = [] →
      t.foreseen place = (e.2.settled w).read place ∧ (t.outstanding place).length ≤ 1 ∧
      ∀ q ∈ t.outstanding place, ∃ after effects outcome,
        (e.2.begin w).2 = .ends (after + 1) effects outcome ∧ q.due = s.now + (after + 1) := by
  induction checks generalizing s with
  | nil => simp
  | cons e rest ih =>
    obtain ⟨apart, separate⟩ := List.pairwise_cons.mp separate
    obtain ⟨same, agree⟩ := List.forall_mem_cons.mp agree
    have others : ∀ f ∈ rest, Agree f.2.places (s.launch e.2).1.world w :=
      fun f other place member =>
        (read_launch ((apart f other).symm place member) s).trans (agree f other place member)
    have first : ((s.launchAll (e :: rest)).1) = ((s.launch e.2).1.launchAll rest).1 := rfl
    rw [first]
    refine List.forall_mem_cons.mpr
      ⟨fun place member free => ?_, fun f other place member free => ?_⟩
    · obtain ⟨read, outstanding⟩ :=
        launchAll_other (fun f other => apart f other place member) (s.launch e.2).1
      obtain ⟨few, due⟩ := outstanding_launch_own free e.2
      rw [foreseen_congr outstanding read, foreseen_launch free, outstanding,
        Probe.settled_agree same place member]
      rw [(Probe.begin_agree (List.Subset.refl _) same).1] at due
      exact ⟨rfl, few, due⟩
    · have unbegun := outstanding_launch_other ((apart f other).symm place member) s
      rw [← s.now_launch e.2]
      exact ih separate others f other place member (unbegun.trans free)

/-- Jobs that all end before the deadline are waited for until nothing of them goes on. -/
theorem awaitAll_evaluated (separate : checks.Pairwise fun a b => a.2.Apart b.2) {s t : Session}
    {jobs : List Job} (begun : s.launchAll checks = (t, jobs)) {timeout : Nat} (kept : Nat)
    (off : s.world.off = w.off)
    (agree : ∀ e ∈ checks, Agree e.2.places s.world w)
    (spares : ∀ e ∈ checks, ∀ place ∈ e.2.places, s.Spares place)
    (ends : ∀ e ∈ checks, ∃ after effects outcome,
      (e.2.begin w).2 = .ends after effects outcome ∧ after < timeout) :
    let round := (t.awaitAll s.now timeout kept jobs).1
    round.world.off = w.off ∧
    (∀ place, s.Spares place → round.Spares place) ∧
    (∀ place, s.Spares place → (∀ e ∈ checks, place ∉ e.2.places) →
      round.world.read place = s.world.read place) ∧
    ∀ e ∈ checks, Agree e.2.places round.world (e.2.settled w) := by
  intro round
  have listed := launchAll_jobs separate s
  have launched := s.off_launchAll checks
  have queued := s.queued_launchAll checks
  have frame : ∀ place, (∀ e ∈ checks, place ∉ e.2.places) →
      (s.launchAll checks).1.world.read place = s.world.read place ∧
        (s.launchAll checks).1.outstanding place = s.outstanding place :=
    fun place outside => launchAll_other outside s
  have foreseen := launchAll_foreseen separate agree
  simp only [begun] at listed launched queued frame foreseen
  obtain ⟨last, ending⟩ : ∃ last, last = (collect (s.now + timeout) s.now jobs).1 := ⟨_, rfl⟩
  have seen : ∀ e ∈ checks, ∀ after effects outcome,
      (e.2.begin w).2 = .ends after effects outcome → s.now + after ≤ last := by
    intro e member after effects outcome course
    obtain ⟨_, _, _, same, early⟩ := ends e member
    rw [course] at same
    cases same
    have job : Job.ofCourse s.now e.1 e.2 (.ends after effects outcome) ∈ jobs := by
      rw [listed, ← course, ← (Probe.begin_agree (List.Subset.refl _) (agree e member)).1]
      exact List.mem_map_of_mem member
    have settled : _ ≤ (collect (s.now + timeout) s.now jobs).1 := settled_le_collect job s.now
    rw [← ending] at settled
    refine Nat.le_trans ?_ settled
    simp only [Job.ofCourse, Job.settled]
    omega
  -- At a spared place at most one check of the round has something outstanding.
  have few : ∀ place, s.Spares place →
      (t.outstanding place).length ≤ 1 ∧ ∀ q ∈ t.outstanding place, q.due ≤ last := by
    intro place spared
    by_cases touched : ∃ e ∈ checks, place ∈ e.2.places
    · obtain ⟨e, member, inside⟩ := touched
      obtain ⟨-, single, due⟩ := foreseen e member place inside spared.free
      refine ⟨single, fun q awaited => ?_⟩
      obtain ⟨after, effects, outcome, course, at_⟩ := due q awaited
      exact at_ ▸ seen e member _ _ _ course
    · have outside : ∀ e ∈ checks, place ∉ e.2.places :=
        fun e member inside => touched ⟨e, member, inside⟩
      simp [(frame place outside).2, spared.free]
  have world : round.world = (t.runTo last).world := ending ▸ rfl
  have pending : round.pending = (t.runTo last).pending := ending ▸ rfl
  have waiting : round.queued = (t.runTo last).queued := ending ▸ rfl
  have settled := fun place spared => read_runTo (few place spared).1 (few place spared).2
  refine ⟨?_, fun place spared => ⟨?_, ?_⟩, fun place spared outside => ?_,
    fun e member place inside => ?_⟩
  · rw [world, off_runTo, launched, off]
  · rw [outstanding, pending]
    exact (settled place spared).2
  · rw [waiting, (t.runTo_parts last).2, queued]
    exact spared.queued
  · obtain ⟨read, free⟩ := frame place outside
    rw [world, (settled place spared).1, foreseen_of_free (free.trans spared.free), read]
  · have spared := spares e member place inside
    rw [world, (settled place spared).1, (foreseen e member place inside spared.free).1]

end Session

namespace Roster

/-- Nothing of the checks goes on: no call is outstanding and none is queued. -/
def Idle (r : Roster) (s : Session) : Prop :=
  ∀ e ∈ r.checks.entries, ∀ place ∈ e.2.places, s.Spares place

variable {r : Roster} {s : Session} {workers : Workers} {timeout : Nat}

theorem idle_of_quiet (pending : s.pending = []) (queued : s.queued = []) : r.Idle s :=
  fun _ _ _ _ => ⟨by simp [Session.outstanding, pending], by simp [queued]⟩

theorem ends_of_duration_lt {p : Probe} (spares : ∀ place ∈ p.places, s.Spares place)
    (early : s.duration p < timeout) :
    ∃ after effects outcome,
      (p.begin s.world).2 = .ends after effects outcome ∧ after < timeout := by
  have begun : Agree p.places s.beginQueued.world s.world :=
    fun place own => (Session.beginQueued_spared (spares place own).queued).1
  have settled := s.alone_eq p
  rw [(Probe.begin_agree (List.Subset.refl _) begun).1] at settled
  rw [Session.duration] at early
  cases course : (p.begin s.world).2 with
  | never =>
    rw [course, Option.map_eq_none_iff] at settled
    simp [settled] at early
  | ends after effects outcome =>
    rw [course, Option.map_eq_some_iff] at settled
    obtain ⟨⟨t, reply⟩, ended, told⟩ := settled
    have time : t.now = s.now + after := (Prod.mk.inj told).1
    rw [ended] at early
    have passed := Nat.cast_lt.mp early
    exact ⟨after, effects, outcome, rfl, by omega⟩

theorem Separate.apart (separate : r.Separate) {e f : String × Probe}
    (member : e ∈ r.checks.entries) (other : f ∈ r.checks.entries) (different : e ≠ f) :
    e.2.Apart f.2 := by
  have symmetric : Std.Symm fun a b : String × Probe => a.2.Apart b.2 :=
    ⟨fun _ _ => Probe.Apart.symm⟩
  exact List.Pairwise.forall separate member other different

/-- What a round on a live pool begins with, unless there is no time to begin anything. -/
theorem fanOut_eq_launched (s : Session) (live : workers.isLive = true)
    (waits : ¬(timeout = 0 ∧ workers.isBorrowed = true)) :
    ∃ u : Session, r.fanOut s workers timeout =
        (u.launchAll (r.active s.world)).1.awaitAll u.now timeout s.reports.length
          (u.launchAll (r.active s.world)).2 ∧
      u.world.off = s.world.off ∧
      (∀ place, s.Spares place → u.Spares place ∧ u.world.read place = s.world.read place) := by
  by_cases nothing : r.active s.world = []
  · refine ⟨s, ?_, rfl, fun place spared => ⟨spared, rfl⟩⟩
    rw [fanOut_nothing nothing live waits, nothing]
    rfl
  · refine ⟨s.beginQueued, ?_, s.beginQueued_parts.2, fun place spared => ⟨spared.beginQueued, ?_⟩⟩
    · rw [fanOut_launches nothing live waits, Session.now_beginQueued]
    · exact (Session.beginQueued_spared spared.queued).1

/-- Checks that all end before the deadline are evaluated once by a fanned-out round. -/
theorem fanOut_evaluated (separate : r.Separate) (guarded : ∀ e ∈ r.checks.entries, e.2.Guarded)
    (idle : r.Idle s) (live : workers.isLive = true)
    (enough : ∀ e ∈ r.active s.world, s.duration e.2 < timeout) :
    Evaluated r.checks.entries s.world (r.fanOut s workers timeout).1 ∧
      (r.fanOut s workers timeout).2.entries =
        (r.active s.world).map fun e => (e.1, (e.2.begin s.world).2.verdict) := by
  have inside : ∀ e ∈ r.active s.world, e ∈ r.checks.entries ∧ e.2.isActive s.world = true :=
    fun e member => List.mem_filter.mp member
  by_cases posted : timeout = 0 ∧ workers.isBorrowed = true
  · have none_ : r.active s.world = [] :=
      List.eq_nil_iff_forall_not_mem.mpr fun e member => by
        simpa [posted.1] using enough e member
    rw [fanOut_eq_post posted, none_]
    refine ⟨⟨rfl, ?_, fun e member _ place _ => rfl, fun e member place own => ?_⟩, rfl⟩
    · intro e member active
      have never : e ∈ r.active s.world := List.mem_filter.mpr ⟨member, active⟩
      rw [none_] at never
      cases never
    · have spared := idle e member place own
      exact ⟨spared.free, by simpa [Session.post] using spared.queued⟩
  · obtain ⟨u, round, off, spared⟩ := fanOut_eq_launched (r := r) s live posted
    have agree : ∀ e ∈ r.active s.world, Agree e.2.places u.world s.world :=
      fun e member place own => (spared place (idle e (inside e member).1 place own)).2
    have spares : ∀ e ∈ r.active s.world, ∀ place ∈ e.2.places, u.Spares place :=
      fun e member place own => (spared place (idle e (inside e member).1 place own)).1
    have ends : ∀ e ∈ r.active s.world, ∃ after effects outcome,
        (e.2.begin s.world).2 = .ends after effects outcome ∧ after < timeout :=
      fun e member => ends_of_duration_lt (idle e (inside e member).1) (enough e member)
    have alone : (r.active s.world).Pairwise fun a b => a.2.Apart b.2 := separate.filter _
    have jobs := Session.launchAll_jobs alone u
    have left := Session.awaitAll_evaluated alone (Prod.mk.eta).symm s.reports.length off agree
      spares ends
    rw [← round] at left
    obtain ⟨kept, free, frame, settled⟩ := left
    refine ⟨⟨kept, ?_, ?_, ?_⟩, ?_⟩
    · exact fun e member active => settled e (List.mem_filter.mpr ⟨member, active⟩)
    · intro e member inactive place own
      obtain ⟨still, read⟩ := spared place (idle e member place own)
      refine (frame place still fun f running theirs => ?_).trans read
      obtain ⟨present, active⟩ := inside f running
      have different : e ≠ f := by
        rintro rfl
        simp [active] at inactive
      exact separate.apart member present different place own theirs
    · exact fun e member place own => free place (spared place (idle e member place own)).1
    · have ascending : (((r.active s.world).map fun e =>
          Job.ofCourse u.now e.1 e.2 (e.2.begin u.world).2).map Job.name).Pairwise (· < ·) := by
        simp only [List.map_map, Function.comp_def, Job.name_ofCourse]
        exact List.pairwise_map.mpr (r.ascending_active s.world)
      rw [round, jobs, Session.entries_awaitAll ascending, List.map_map]
      refine List.map_congr_left fun e member => ?_
      obtain ⟨after, effects, outcome, course, early⟩ := ends e member
      have same := (Probe.begin_agree (List.Subset.refl _) (agree e member)).1
      have answers := guarded e (inside e member).1
      simp [same, course, Job.verdict_ofCourse answers (Nat.le_of_lt early), Course.verdict]

/-- When the checks share no state, answer for themselves and all end before the deadline, it makes
no difference whether a round evaluates them one after another or all at once. -/
theorem run_agrees_fanOut (separate : r.Separate) (guarded : ∀ e ∈ r.checks.entries, e.2.Guarded)
    (idle : r.Idle s) (live : workers.isLive = true)
    (enough : ∀ e ∈ r.active s.world, s.duration e.2 < timeout) :
    ∃ serial parallel results,
      r.run s = some (serial, .results results) ∧
      r.fanOut s workers timeout = (parallel, results) ∧
      results.names = (r.active s.world).map (·.1) ∧
      serial.world.off = parallel.world.off ∧
      (∀ e ∈ r.checks.entries, Agree e.2.places serial.world parallel.world) ∧
      (∀ e ∈ r.checks.entries, e.2.isActive s.world = false →
        e.1 ∉ results.names ∧ Agree e.2.places serial.world s.world) ∧
      r.Idle serial ∧ r.Idle parallel := by
  obtain ⟨parallel, entries⟩ :
      Evaluated r.checks.entries s.world (r.fanOut s workers timeout).1 ∧ _ :=
    fanOut_evaluated separate guarded idle live enough
  have ends : ∀ e ∈ r.checks.entries, e.2.isActive s.world = true →
      (e.2.begin s.world).2 ≠ .never := by
    intro e member active
    obtain ⟨after, effects, outcome, course, -⟩ := ends_of_duration_lt (idle e member)
      (enough e (List.mem_filter.mpr ⟨member, active⟩))
    simp [course]
  obtain ⟨t, round, serial, -⟩ := runFrom_evaluated separate guarded ends .empty rfl
    (fun _ _ _ _ => rfl) idle
  have names := r.names_fanOut s workers timeout
  refine ⟨t, (r.fanOut s workers timeout).1, (r.fanOut s workers timeout).2, ?_, rfl, names,
    serial.off.trans parallel.off.symm, fun e => serial.agree parallel, ?_, serial.spares,
    parallel.spares⟩
  · have listed : ((r.active s.world).foldl
        (fun m e => m.insert e.1 (e.2.begin s.world).2.verdict) NameMap.empty) =
        (r.fanOut s workers timeout).2 :=
      NameMap.ext ((NameMap.entries_collected (r.ascending_active s.world) _).trans entries.symm)
    exact round.trans (congrArg (fun m => some (t, RoundEnd.results m)) listed)
  · intro e member inactive
    refine ⟨fun reported => ?_, serial.inactive e member inactive⟩
    rw [names, List.mem_map] at reported
    obtain ⟨f, running, same⟩ := reported
    obtain ⟨present, active⟩ := List.mem_filter.mp running
    have found := (NameMap.find?_of_mem present).symm.trans (same ▸ NameMap.find?_of_mem member)
    rw [Option.some.inj found, inactive] at active
    cases active

/-- A check that answers, one that repeats its last verdict, one that is given up and one that is
switched off. -/
def stacked : Roster :=
  ⟨.ofList [
    ("db", .leaf ⟨"db", fun _ => .finish 10 (.error ⟨"down", []⟩), true⟩),
    ("disk", .skip ⟨0, "disk"⟩ 1 (.leaf ⟨"disk", fun _ => .finish 20 (.verdict .healthy), true⟩)),
    ("hangs", .limit 5 (.skip ⟨0, "hangs"⟩ 2 (.leaf ⟨"hangs", fun _ => .hang, true⟩))),
    ("off", .leaf ⟨"off", fun _ => .hang, false⟩)]⟩

/-- A session in which the disk has been checked once. -/
def repeating : Session :=
  { Session.fresh with
    world := (World.fresh.turn ⟨0, "disk"⟩).store ⟨0, "disk"⟩ (.warning "filling") }

theorem run_agrees_fanOut_stacked :
    stacked.Separate ∧ stacked.Idle repeating ∧ (Workers.mk 2 .running).isLive = true ∧
    ∃ serial parallel results,
      stacked.run repeating = some (serial, .results results) ∧
      stacked.fanOut repeating ⟨2, .running⟩ 80 = (parallel, results) ∧
      results.names = ["db", "disk", "hangs"] ∧
      serial.world.cell ⟨0, "disk"⟩ = parallel.world.cell ⟨0, "disk"⟩ ∧
      serial.world.tally "off" = World.fresh.tally "off" := by
  have separate : stacked.Separate := by decide +kernel
  have idle : stacked.Idle repeating := idle_of_quiet rfl rfl
  have live : (Workers.mk 2 .running).isLive = true := rfl
  have guarded : ∀ e ∈ stacked.checks.entries, e.2.Guarded := by
    intro e member outcome
    rcases member with _ | ⟨_, _ | ⟨_, _ | ⟨_, _ | ⟨_, none⟩⟩⟩⟩
    · rfl
    · rfl
    · rfl
    · rfl
    · cases none
  have enough : ∀ e ∈ stacked.active repeating.world, repeating.duration e.2 < (80 : Nat) := by
    intro e member
    rcases member with _ | ⟨_, _ | ⟨_, _ | ⟨_, none⟩⟩⟩
    · exact (Nat.cast_lt.mpr (by decide) : ((10 : Nat) : ℕ∞) < (80 : Nat))
    · exact (Nat.cast_lt.mpr (by decide) : ((0 : Nat) : ℕ∞) < (80 : Nat))
    · exact (Nat.cast_lt.mpr (by decide) : ((5 : Nat) : ℕ∞) < (80 : Nat))
    · cases none
  obtain ⟨serial, parallel, results, run, fanOut, names, -, agree, off, -⟩ :=
    run_agrees_fanOut separate guarded idle live enough
  have disk := agree ("disk", _) (.tail _ (.head _)) (.cell ⟨0, "disk"⟩) (.head _)
  obtain ⟨-, untouched⟩ := off ("off", _) (.tail _ (.tail _ (.tail _ (.head _)))) rfl
  have spared := untouched (.calls "off") (.head _)
  exact ⟨separate, idle, live, serial, parallel, results, run, fanOut,
    names.trans (by decide +kernel), Sum.inr.inj disk, Sum.inl.inj spared⟩

end Roster

end HealthWatch
