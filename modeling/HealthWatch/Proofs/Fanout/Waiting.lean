import HealthWatch.Fanout
import HealthWatch.Proofs.NameMap

/-!
# Waiting for jobs

The jobs of a round are awaited one after another. `collect_last` and `collect_seen` say that this
is as good as watching all of them at once: what is known of a job does not depend on the jobs
before it, and the waiting is over when the slowest job is settled, at the deadline at the latest.
-/

namespace HealthWatch

namespace Job

def seen (deadline : Nat) (j : Job) : Awaited :=
  match j.ends? with
  | some (at_, e) => if at_ ≤ deadline then .ended e else .late
  | none => .late

def settled (deadline : Nat) (j : Job) : Nat :=
  match j.ends? with
  | some (at_, _) => min at_ deadline
  | none => deadline

theorem settled_le (deadline : Nat) (j : Job) : j.settled deadline ≤ deadline := by
  rw [settled]
  split
  · exact Nat.min_le_right ..
  · exact Nat.le_refl _

theorem await_eq (deadline now : Nat) (j : Job) :
    j.await deadline now = (max now (j.settled deadline), j.seen deadline) := by
  obtain ⟨name, _ | ⟨at_, e⟩⟩ := j
  · rfl
  · by_cases inTime : at_ ≤ deadline
    · simp [await, settled, seen, inTime]
    · simp [await, settled, seen, inTime, Nat.min_eq_right (Nat.le_of_not_le inTime)]

/-- A job that is not reported late has ended by the deadline, and was waited for until then. -/
theorem ended_of_seen {deadline : Nat} {j : Job} (inTime : (j.seen deadline).verdict ≠ .timedOut) :
    ∃ t e, j.ends? = some (t, e) ∧ t ≤ deadline ∧ j.seen deadline = .ended e ∧
      j.settled deadline = t := by
  unfold seen at inTime
  split at inTime
  · rename_i t e ends
    split at inTime
    · rename_i early
      refine ⟨t, e, ends, early, ?_, ?_⟩
      · simp only [seen, ends, if_pos early]
      · simp only [settled, ends, Nat.min_eq_left early]
    · exact absurd rfl inTime
  · exact absurd rfl inTime

theorem ends_ofCourse {now t : Nat} {name : String} {p : Probe} {c : Course} {e : JobEnd}
    (ends : (ofCourse now name p c).ends? = some (t, e)) :
    ∃ after effects outcome, c = .ends after effects outcome ∧ t = now + after ∧
      e = .ofReply (p.reply outcome) := by
  cases c with
  | never => cases ends
  | ends after effects outcome =>
    obtain ⟨rfl, rfl⟩ := Prod.mk.inj (Option.some.inj ends)
    exact ⟨after, effects, outcome, rfl, rfl, rfl⟩

@[simp] theorem name_ofCourse (now : Nat) (name : String) (p : Probe) (c : Course) :
    (ofCourse now name p c).name = name := by
  cases c <;> rfl

@[simp] theorem name_cut (j : Job) (time : Nat) : (j.cut time).name = j.name := by
  rw [cut]
  split
  · split <;> rfl
  · rfl

end Job

/-! ### Collecting -/

theorem collect_last (deadline now : Nat) (jobs : List Job) :
    (collect deadline now jobs).1 = jobs.foldl (fun t j => max t (j.settled deadline)) now := by
  induction jobs generalizing now with
  | nil => rfl
  | cons j rest ih => simp only [collect, Job.await_eq, List.foldl_cons, ih]

theorem collect_seen (deadline now : Nat) (jobs : List Job) :
    (collect deadline now jobs).2.map (fun k => (k.1, k.2.2)) =
      jobs.map fun j => (j, j.seen deadline) := by
  induction jobs generalizing now with
  | nil => rfl
  | cons j rest ih => simp only [collect, Job.await_eq, List.map_cons, ih]

theorem le_collect (deadline now : Nat) (jobs : List Job) : now ≤ (collect deadline now jobs).1 := by
  induction jobs generalizing now with
  | nil => exact Nat.le_refl _
  | cons j rest ih =>
    simp only [collect, Job.await_eq]
    exact Nat.le_trans (Nat.le_max_left ..) (ih _)

theorem collect_le {deadline now : Nat} (early : now ≤ deadline) (jobs : List Job) :
    (collect deadline now jobs).1 ≤ deadline := by
  induction jobs generalizing now with
  | nil => exact early
  | cons j rest ih =>
    simp only [collect, Job.await_eq]
    exact ih (Nat.max_le.mpr ⟨early, j.settled_le deadline⟩)

/-! ### The jobs of a round -/

namespace Session

theorem names_launchAll (s : Session) (checks : List (String × Probe)) :
    (s.launchAll checks).2.map Job.name = checks.map (·.1) := by
  induction checks generalizing s with
  | nil => rfl
  | cons e rest ih => simp only [launchAll, List.map_cons, Job.name_ofCourse, ih]

theorem names_spawnAll (s : Session) (workers : Workers) (checks : List (String × Probe)) :
    (s.spawnAll workers checks).2.map Job.name = checks.map (·.1) := by
  rw [spawnAll]
  split
  · exact names_launchAll s checks
  · simp

theorem names_cutAt (s : Session) (workers : Workers) (time : Nat) (jobs : List Job) :
    (s.cutAt workers time jobs).2.map Job.name = jobs.map Job.name := by
  rw [cutAt]
  split
  · simp
  · rfl

/-- A round has one entry for each job: what is known of it at the deadline. -/
theorem entries_awaitAll {jobs : List Job} (ascending : (jobs.map Job.name).Pairwise (· < ·))
    (s : Session) (start timeout kept : Nat) :
    (s.awaitAll start timeout kept jobs).2.entries =
      jobs.map fun j => (j.name, (j.seen (start + timeout)).verdict) := by
  have told := congrArg (List.map fun k : Job × Awaited => (k.1.name, k.2.verdict))
    (collect_seen (start + timeout) start jobs)
  simp only [List.map_map, Function.comp_def] at told
  have entries : (s.awaitAll start timeout kept jobs).2 =
      .ofList (jobs.map fun j => (j.name, (j.seen (start + timeout)).verdict)) := by
    rw [awaitAll, ← told]
  rw [entries, NameMap.entries_ofList]
  exact List.pairwise_map.mpr (List.pairwise_map.mp ascending)

theorem now_awaitAll (s : Session) (start timeout kept : Nat) (jobs : List Job) :
    (s.awaitAll start timeout kept jobs).1.now =
      (collect (start + timeout) start jobs).1 := rfl

end Session

/-! ### Rounds of a roster -/

namespace Roster

section

variable {r : Roster} {s : Session} {workers : Workers} {timeout : Nat}

theorem fanOut_eq_post (posted : timeout = 0 ∧ workers.isBorrowed = true) :
    r.fanOut s workers timeout = s.post (r.active s.world) := by
  simp [fanOut, posted]

theorem fanOut_nothing (nothing : r.active s.world = []) (live : workers.isLive = true)
    (waits : ¬(timeout = 0 ∧ workers.isBorrowed = true)) :
    r.fanOut s workers timeout = s.awaitAll s.now timeout s.reports.length [] := by
  simp only [fanOut, Bool.and_eq_true, decide_eq_true_eq, if_neg waits, nothing, List.isEmpty_nil,
    if_true, Session.spawnAll, live, Session.launchAll]

theorem fanOut_launches (something : r.active s.world ≠ []) (live : workers.isLive = true)
    (waits : ¬(timeout = 0 ∧ workers.isBorrowed = true)) :
    r.fanOut s workers timeout = (s.beginQueued.launchAll (r.active s.world)).1.awaitAll s.now
      timeout s.reports.length (s.beginQueued.launchAll (r.active s.world)).2 := by
  simp only [fanOut, Bool.and_eq_true, decide_eq_true_eq, if_neg waits, List.isEmpty_iff,
    if_neg something, Session.spawnAll, live, if_true]

end

variable (r : Roster) (s : Session) (workers : Workers) (timeout : Nat)

theorem ascending_active (w : World) : Ascending (r.active w) :=
  r.checks.ascending.filter _

theorem entries_post (checks : List (String × Probe)) (ascending : Ascending checks) :
    (s.post checks).2.entries = checks.map fun e => (e.1, .timedOut) := by
  rw [Session.post]
  exact NameMap.entries_ofList (List.pairwise_map.mpr ascending)

/-- A round has one entry for each check that was active at its begin, whatever becomes of them. -/
theorem names_fanOut :
    (r.fanOut s workers timeout).2.names = (r.active s.world).map (·.1) := by
  have ascending := r.ascending_active s.world
  rw [fanOut]
  split
  · rw [NameMap.names, entries_post s _ ascending, List.map_map, Function.comp_def]
  · dsimp only
    have names := Session.names_spawnAll
      (if (r.active s.world).isEmpty then s else s.beginQueued) workers (r.active s.world)
    have spawned : List.Pairwise (· < ·) (List.map Job.name _) :=
      names ▸ List.pairwise_map.mpr ascending
    rw [NameMap.names, Session.entries_awaitAll spawned, List.map_map, ← names]
    rfl

theorem names_fanOutCut (time : Nat) :
    (r.fanOutCut s workers timeout time).2.names = (r.active s.world).map (·.1) := by
  have ascending := r.ascending_active s.world
  rw [fanOutCut]
  dsimp only
  have names := (Session.names_cutAt (s.spawnAll workers (r.active s.world)).1 workers time
    (s.spawnAll workers (r.active s.world)).2).trans (s.names_spawnAll workers (r.active s.world))
  have cut : List.Pairwise (· < ·) (List.map Job.name _) :=
    names ▸ List.pairwise_map.mpr ascending
  rw [NameMap.names, Session.entries_awaitAll cut, List.map_map, ← names]
  rfl

/-! ### The time that a round takes -/

theorem le_now_fanOut : s.now ≤ (r.fanOut s workers timeout).1.now := by
  rw [fanOut]
  split
  · exact Nat.le_refl _
  · exact le_collect ..

theorem now_fanOut_le : (r.fanOut s workers timeout).1.now ≤ s.now + timeout := by
  rw [fanOut]
  split
  · exact Nat.le_add_right ..
  · exact collect_le (Nat.le_add_right ..) _

theorem le_now_fanOutCut (time : Nat) : s.now ≤ (r.fanOutCut s workers timeout time).1.now :=
  le_collect ..

theorem now_fanOutCut_le (time : Nat) :
    (r.fanOutCut s workers timeout time).1.now ≤ s.now + timeout :=
  collect_le (Nat.le_add_right ..) _

end Roster

end HealthWatch
