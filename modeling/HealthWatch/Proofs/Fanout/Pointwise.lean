import HealthWatch.Proofs.Evaluation.Places
import HealthWatch.Proofs.Fanout.Waiting
import Mathlib.Data.ENat.Lattice

/-!
# A round as many single evaluations

When the checks of a roster share no state, a fanned-out round gives each active check what it would
have got alone: its own reply if that comes before the deadline, and a timeout otherwise.
`fanOut_pointwise` says this for every mix of checks, and how long the round takes.
-/

namespace HealthWatch

namespace Session

/-- The protected evaluation of a check that is the only new one: the thread first begins what it
has been given before, as it does for a round. -/
def alone (s : Session) (p : Probe) : Option (Session × Reply) :=
  s.beginQueued.safeCheck p

/-- How long the evaluation takes alone; for ever if it never ends. -/
def duration (s : Session) (p : Probe) : ℕ∞ :=
  match s.alone p with
  | some (after, _) => (after.now - s.now : Nat)
  | none => ⊤

/-- The evaluation alone is settled by the begin of the check. -/
theorem alone_eq (s : Session) (p : Probe) :
    (s.alone p).map (fun a => (a.1.now, a.2)) =
      match (p.begin s.beginQueued.world).2 with
      | .never => none
      | .ends after _ outcome => some (s.now + after, p.reply outcome) := by
  have course := s.beginQueued.launch_course p
  have now := s.beginQueued.now_launch p
  rw [alone, safeCheck, check]
  generalize s.beginQueued.launch p = launched at course now
  obtain ⟨t, c⟩ := launched
  dsimp only at course now
  rw [← course]
  cases c with
  | never => rfl
  | ends after effects outcome =>
    rw [now_beginQueued] at now
    by_cases atOnce : after = 0
    · simp [atOnce, now]
    · simp [atOnce, advance, now]

theorem now_le_alone {s after : Session} {p : Probe} {reply : Reply}
    (ended : s.alone p = some (after, reply)) : s.now ≤ after.now := by
  have settled := s.alone_eq p
  rw [ended] at settled
  split at settled
  · cases settled
  · simp only [Option.map_some, Option.some.injEq, Prod.mk.injEq] at settled
    omega

/-- Checks that share no state begin as if each were the only one. -/
theorem launchAll_jobs {checks : List (String × Probe)}
    (separate : checks.Pairwise fun a b => a.2.Apart b.2) (s : Session) :
    (s.launchAll checks).2 =
      checks.map fun e => .ofCourse s.now e.1 e.2 (e.2.begin s.world).2 := by
  -- The worlds of the checks that wait differ from the first one only where they do not look.
  have from_ : ∀ t : Session, t.now = s.now →
      (∀ e ∈ checks, World.Agree e.2.places t.world s.world) →
      (t.launchAll checks).2 =
        checks.map fun e => .ofCourse s.now e.1 e.2 (e.2.begin s.world).2 := by
    induction checks with
    | nil => intro t _ _; rfl
    | cons e rest ih =>
      intro t now agree
      obtain ⟨apart, separate⟩ := List.pairwise_cons.mp separate
      have course : (t.launch e.2).2 = (e.2.begin s.world).2 :=
        (t.launch_course e.2).trans
          (Probe.begin_agree (List.Subset.refl _) (agree e List.mem_cons_self)).1
      have later := ih separate (t.launch e.2).1 ((t.now_launch e.2).trans now) fun other member =>
        fun place theirs =>
          (read_launch ((apart other member).symm place theirs) t).trans
            (agree other (List.mem_cons_of_mem _ member) place theirs)
      simp only [launchAll, List.map_cons, course, later, now]
  exact from_ s rfl fun e _ place _ => rfl

end Session

namespace Job

def ofAlone (s : Session) (e : String × Probe) : Job :=
  ⟨e.1, (s.alone e.2).map fun a => (a.1.now, .ofReply a.2)⟩

theorem ofCourse_eq_ofAlone (s : Session) (e : String × Probe) :
    ofCourse s.now e.1 e.2 (e.2.begin s.beginQueued.world).2 = ofAlone s e := by
  have settled := congrArg (Option.map fun a : Nat × Reply => (a.1, JobEnd.ofReply a.2))
    (s.alone_eq e.2)
  rw [Option.map_map] at settled
  refine Eq.trans ?_ (congrArg (Job.mk e.1) settled.symm)
  cases (e.2.begin s.beginQueued.world).2 <;> rfl

theorem settled_ofAlone (s : Session) (e : String × Probe) (timeout : Nat) :
    ((ofAlone s e).settled (s.now + timeout) : ℕ∞) =
      s.now + min (timeout : ℕ∞) (s.duration e.2) := by
  rw [settled, ofAlone, Session.duration]
  cases alone : s.alone e.2 with
  | none => simp
  | some a =>
    obtain ⟨after, reply⟩ := a
    have later := Session.now_le_alone alone
    have exact_ : min after.now (s.now + timeout) = s.now + min timeout (after.now - s.now) := by
      omega
    simp only [Option.map_some, exact_]
    push_cast
    rfl

theorem seen_of_duration_lt {s after : Session} {e : String × Probe} {reply : Reply} {timeout : Nat}
    (ended : s.alone e.2 = some (after, reply)) (early : s.duration e.2 < timeout) :
    (ofAlone s e).seen (s.now + timeout) = .ended (.ofReply reply) := by
  have inTime : after.now ≤ s.now + timeout := by
    rw [Session.duration, ended] at early
    have := Nat.cast_lt.mp early
    omega
  simp [seen, ofAlone, ended, inTime]

theorem seen_of_lt_duration {s : Session} {e : String × Probe} {timeout : Nat}
    (slow : timeout < s.duration e.2) : (ofAlone s e).seen (s.now + timeout) = .late := by
  rw [Session.duration] at slow
  cases ended : s.alone e.2 with
  | none => simp [seen, ofAlone, ended]
  | some a =>
    obtain ⟨after, reply⟩ := a
    rw [ended] at slow
    have passed := Nat.cast_lt.mp slow
    have late : ¬after.now ≤ s.now + timeout := by omega
    simp [seen, ofAlone, ended, late]

end Job

namespace Roster

/-- The checks share no state. -/
def Separate (r : Roster) : Prop :=
  r.checks.entries.Pairwise fun a b => a.2.Apart b.2

instance (r : Roster) : Decidable r.Separate :=
  inferInstanceAs (Decidable (r.checks.entries.Pairwise _))

noncomputable def longest (durations : List ℕ∞) : ℕ∞ :=
  durations.foldr max 0

/-- The latest end of jobs that are settled after the durations or at the deadline. -/
theorem foldl_settled {start timeout : Nat} {job : String × Probe → Job}
    {duration : String × Probe → ℕ∞} {checks : List (String × Probe)}
    (settled : ∀ e ∈ checks, ((job e).settled (start + timeout) : ℕ∞) =
      start + min (timeout : ℕ∞) (duration e)) {now : Nat} (begun : start ≤ now) :
    ((checks.map job).foldl (fun t j => max t (j.settled (start + timeout))) now : Nat) =
      max (now : ℕ∞) (start + min (timeout : ℕ∞) (longest (checks.map duration))) := by
  induction checks generalizing now with
  | nil =>
    have kept : max (now : ℕ∞) start = now := max_eq_left (Nat.cast_le.mpr begun)
    simp [longest, kept]
  | cons e rest ih =>
    obtain ⟨first, later⟩ := List.forall_mem_cons.mp settled
    have step : start ≤ max now ((job e).settled (start + timeout)) :=
      Nat.le_trans begun (Nat.le_max_left ..)
    have slowest : longest ((e :: rest).map duration) =
        max (duration e) (longest (rest.map duration)) := rfl
    have cast : ((max now ((job e).settled (start + timeout)) : Nat) : ℕ∞) =
        max (now : ℕ∞) ((job e).settled (start + timeout)) := Nat.mono_cast.map_max
    rw [List.map_cons, List.foldl_cons, ih later step, cast, first, slowest, min_max_distrib_left,
      ← max_add_add_left, max_assoc]

/-- On a live pool the checks of a round run as if each were alone. -/
theorem fanOut_eq_awaitAll {r : Roster} {s : Session} {workers : Workers} {timeout : Nat}
    (separate : r.Separate) (live : workers.isLive = true)
    (waits : ¬(timeout = 0 ∧ workers.isBorrowed = true)) :
    ∃ t : Session, r.fanOut s workers timeout =
      t.awaitAll s.now timeout s.reports.length ((r.active s.world).map (Job.ofAlone s)) := by
  have begun := Session.launchAll_jobs (separate.filter fun e => e.2.isActive s.world) s.beginQueued
  simp only [Session.now_beginQueued, Job.ofCourse_eq_ofAlone] at begun
  by_cases nothing : r.active s.world = []
  · refine ⟨s, ?_⟩
    rw [fanOut_nothing nothing live waits, nothing]
    rfl
  · refine ⟨(s.beginQueued.launchAll (r.active s.world)).1, ?_⟩
    rw [fanOut_launches nothing live waits]
    exact congrArg _ begun

theorem find?_fanOut {r : Roster} {s : Session} {workers : Workers} {timeout : Nat}
    (separate : r.Separate) (live : workers.isLive = true) {e : String × Probe}
    (member : e ∈ r.active s.world) :
    (r.fanOut s workers timeout).2.find? e.1 =
      some (if timeout = 0 ∧ workers.isBorrowed = true then .timedOut
        else ((Job.ofAlone s e).seen (s.now + timeout)).verdict) := by
  have ascending := r.ascending_active s.world
  split
  · rename_i posted
    refine NameMap.find?_of_mem (e := (e.1, _)) ?_
    rw [fanOut_eq_post posted, entries_post s _ ascending]
    exact List.mem_map.mpr ⟨e, member, rfl⟩
  · rename_i waits
    obtain ⟨t, round⟩ := fanOut_eq_awaitAll (s := s) separate live waits
    have names : ((r.active s.world).map (Job.ofAlone s)).map Job.name =
        (r.active s.world).map (·.1) := by
      simp [Job.ofAlone]
    refine NameMap.find?_of_mem (e := (e.1, _)) ?_
    rw [round, Session.entries_awaitAll (names ▸ List.pairwise_map.mpr ascending), List.map_map]
    exact List.mem_map.mpr ⟨e, member, rfl⟩

theorem find?_fanOut_of_early {r : Roster} {s after : Session} {workers : Workers} {timeout : Nat}
    (separate : r.Separate) (live : workers.isLive = true) {e : String × Probe}
    (member : e ∈ r.active s.world) {reply : Reply} (ended : s.alone e.2 = some (after, reply))
    (early : s.duration e.2 < timeout) :
    (r.fanOut s workers timeout).2.find? e.1 = some (Awaited.ended (.ofReply reply)).verdict := by
  have waits : ¬(timeout = 0 ∧ workers.isBorrowed = true) := by
    rintro ⟨rfl, -⟩
    exact not_lt_zero early
  rw [find?_fanOut separate live member, if_neg waits, Job.seen_of_duration_lt ended early]

theorem find?_fanOut_of_late {r : Roster} {s : Session} {workers : Workers} {timeout : Nat}
    (separate : r.Separate) (live : workers.isLive = true) {e : String × Probe}
    (member : e ∈ r.active s.world) (slow : timeout < s.duration e.2) :
    (r.fanOut s workers timeout).2.find? e.1 = some .timedOut := by
  rw [find?_fanOut separate live member, Job.seen_of_lt_duration slow, Awaited.verdict, ite_self]

theorem now_fanOut {r : Roster} {s : Session} {workers : Workers} {timeout : Nat}
    (separate : r.Separate) (live : workers.isLive = true) :
    (r.fanOut s workers timeout).1.now =
      s.now + min (timeout : ℕ∞) (longest ((r.active s.world).map fun e => s.duration e.2)) := by
  by_cases posted : timeout = 0 ∧ workers.isBorrowed = true
  · rw [fanOut_eq_post posted, posted.1]
    simp [Session.post]
  · obtain ⟨t, round⟩ := fanOut_eq_awaitAll (s := s) separate live posted
    rw [round, Session.now_awaitAll, collect_last,
      foldl_settled (fun e _ => Job.settled_ofAlone s e timeout) (Nat.le_refl _)]
    exact max_eq_right (le_add_right (le_refl _))

/-- Every check of a round is judged as if it were the only one, and the round ends with the last of
them or at the deadline. What ends at the very deadline is left open. -/
theorem fanOut_pointwise {r : Roster} {workers : Workers} (separate : r.Separate)
    (live : workers.isLive = true) (s : Session) (timeout : Nat) :
    (r.fanOut s workers timeout).2.names = (r.active s.world).map (·.1) ∧
    (∀ e ∈ r.active s.world,
      (∀ after v, s.alone e.2 = some (after, .verdict v) → s.duration e.2 < timeout →
        (r.fanOut s workers timeout).2.find? e.1 = some v) ∧
      (∀ after text, s.alone e.2 = some (after, .died text) → s.duration e.2 < timeout →
        (r.fanOut s workers timeout).2.find? e.1 = some (.critical
          ("health check task failed: task # panicked with message " ++ Text.quoted text))) ∧
      (timeout < s.duration e.2 →
        (r.fanOut s workers timeout).2.find? e.1 = some (.critical "health check timed out"))) ∧
    (r.fanOut s workers timeout).1.now =
      s.now + min (timeout : ℕ∞) (longest ((r.active s.world).map fun e => s.duration e.2)) := by
  refine ⟨r.names_fanOut s workers timeout, ?_, now_fanOut separate live⟩
  intro e member
  refine ⟨?_, ?_, ?_⟩
  · intro after v ended early
    exact find?_fanOut_of_early separate live member ended early
  · intro after text ended early
    exact find?_fanOut_of_early separate live member ended early
  · intro slow
    exact find?_fanOut_of_late separate live member slow

/-- A check that answers in time, one that dies, one that hangs and one that is switched off. -/
def mixed : Roster :=
  ⟨.ofList [
    ("db", .leaf ⟨"db", fun _ => .finish 10 (.verdict .healthy), true⟩),
    ("dies", .dying "dies" "boom"),
    ("hangs", .skip ⟨0, "hangs"⟩ 1 (.leaf ⟨"hangs", fun _ => .hang, true⟩)),
    ("off", .leaf ⟨"off", fun _ => .finish 10 (.verdict .healthy), false⟩)]⟩

theorem fanOut_pointwise_mixed :
    mixed.Separate ∧ (Workers.mk 2 .running).isLive = true ∧
    (mixed.fanOut .fresh ⟨2, .running⟩ 80).2.names = ["db", "dies", "hangs"] ∧
    (mixed.fanOut .fresh ⟨2, .running⟩ 80).2.find? "db" = some .healthy ∧
    (mixed.fanOut .fresh ⟨2, .running⟩ 80).2.find? "dies" = some (.critical
      ("health check task failed: task # panicked with message " ++ Text.quoted "boom")) ∧
    (mixed.fanOut .fresh ⟨2, .running⟩ 80).2.find? "hangs" =
      some (.critical "health check timed out") ∧
    (mixed.fanOut .fresh ⟨2, .running⟩ 80).1.now = (80 : ℕ∞) := by
  have separate : mixed.Separate := by decide +kernel
  have live : (Workers.mk 2 .running).isLive = true := rfl
  obtain ⟨names, entries, time⟩ := fanOut_pointwise separate live .fresh 80
  have quick : (10 : ℕ∞) < (80 : Nat) := Nat.cast_lt.mpr (by decide)
  have atOnce : (0 : ℕ∞) < (80 : Nat) := Nat.cast_lt.mpr (by decide)
  refine ⟨separate, live, names.trans (by decide +kernel), ?_, ?_, ?_, time.trans ?_⟩
  · exact (entries ("db", _) (.head _)).1 _ _ rfl quick
  · exact (entries ("dies", _) (.tail _ (.head _))).2.1 _ "boom" rfl atOnce
  · exact (entries ("hangs", _) (.tail _ (.tail _ (.head _)))).2.2 (WithTop.coe_lt_top 80)
  · have durations : ((mixed.active World.fresh).map fun e => Session.fresh.duration e.2) =
        [(10 : ℕ∞), 0, ⊤] := rfl
    rw [show Session.fresh.world = World.fresh from rfl, durations]
    simp [longest, Session.fresh]

end Roster

end HealthWatch
