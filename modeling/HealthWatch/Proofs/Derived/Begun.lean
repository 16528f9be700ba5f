import HealthWatch.Proofs.Evaluation.Moves
import HealthWatch.Proofs.Fanout.Serial

/-!
# What an evaluation begins

A completed evaluation of a roster begins the checks that it is about, each once (`names_begun`),
and as they stand in the roster (`begun_get?`). It tells what they reply (`told_of_begun`), and
leaves at a place that only one of them touches what this check leaves there (`evaluate?_at`).
-/

namespace HealthWatch

/-- A check that has begun: under which name and in which world. -/
structure Begun where
  name : String
  probe : Probe
  world : World

namespace Begun

def course (b : Begun) : Course :=
  (b.probe.begin b.world).2

/-- What whoever waits for the check is told. -/
def Replies (b : Begun) (v : Verdict) : Prop :=
  ∃ after effects outcome,
    b.course = .ends after effects outcome ∧ b.probe.reply outcome = .verdict v

/-- What a round tells of the check, if it waits for the end. -/
def Tells (b : Begun) (v : Verdict) : Prop :=
  ∃ after effects outcome, b.course = .ends after effects outcome ∧
    (Awaited.ended (.ofReply (b.probe.reply outcome))).verdict = v

theorem Replies.tells {b : Begun} {v : Verdict} (replied : b.Replies v) : b.Tells v := by
  obtain ⟨after, effects, outcome, course, reply⟩ := replied
  exact ⟨after, effects, outcome, course, by rw [reply]; rfl⟩

def EndsBy (b : Begun) (timeout : Nat) : Prop :=
  ∃ after effects outcome, b.course = .ends after effects outcome ∧ after ≤ timeout

instance (b : Begun) (timeout : Nat) : Decidable (b.EndsBy timeout) :=
  match course : b.course with
  | .never => .isFalse fun ⟨_, _, _, ends, _⟩ => Course.noConfusion (course.symm.trans ends)
  | .ends after effects outcome =>
    decidable_of_iff (after ≤ timeout) ⟨fun early => ⟨after, effects, outcome, course, early⟩,
      fun ⟨_, _, _, ends, early⟩ => (Course.ends.inj (course.symm.trans ends)).1 ▸ early⟩

def job (now : Nat) (b : Begun) : Job :=
  .ofCourse now b.name b.probe b.course

def under (name : String) (log : List Begun) : List Begun :=
  log.filter (·.name == name)

variable {name : String}

theorem under_append (name : String) (log more : List Begun) :
    under name (log ++ more) = under name log ++ under name more :=
  List.filter_append ..

theorem under_cons_self (b : Begun) (log : List Begun) :
    under b.name (b :: log) = b :: under b.name log := by
  simp [under]

theorem under_cons_other {b : Begun} (other : b.name ≠ name) (log : List Begun) :
    under name (b :: log) = under name log := by
  simp [under, other]

theorem under_eq_nil {log : List Begun} (others : ∀ b ∈ log, b.name ≠ name) :
    under name log = [] := by
  simpa [under, List.filter_eq_nil_iff] using others

end Begun

/-- Checks that begin together, in the order of their begin. -/
def Session.begunAll (s : Session) : List (String × Probe) → List Begun
  | [] => []
  | (name, p) :: rest => ⟨name, p, s.world⟩ :: (s.launch p).1.begunAll rest

namespace Roster

def begunFrom (s : Session) : List (String × Probe) → List Begun
  | [] => []
  | (name, p) :: rest =>
    if p.isActive s.world then
      ⟨name, p, s.world⟩ :: match s.safeCheck p with
        | some (t, .verdict _) => begunFrom t rest
        | _ => []
    else begunFrom s rest

/-- What a completed evaluation begins. -/
def begun (r : Roster) (s : Session) : Evaluation → List Begun
  | .run => begunFrom s r.checks.entries
  | .runOne name => (r.get? name).toList.map fun p => ⟨name, p, s.world⟩
  | .fanOut _ _ => s.beginQueued.begunAll (r.active s.world)
  | .fanOutCut _ _ _ => []

/-- A round gives results, and everything that it has begun ends by the deadline. -/
def Completes (r : Roster) (s : Session) : Evaluation → Answer → Prop
  | .run, answer => ∃ results, answer = .round (.results results)
  | .runOne _, _ => True
  | .fanOut workers timeout, _ => workers.isLive = true ∧
    ∀ b ∈ r.begun s (.fanOut workers timeout), 0 < timeout ∧ ∃ after effects outcome,
      b.course = .ends after effects outcome ∧ after ≤ timeout
  | .fanOutCut _ _ _, _ => False

def asked (r : Roster) (w : World) : Evaluation → List String
  | .runOne name => if (r.get? name).isSome then [name] else []
  | _ => (r.active w).map (·.1)

end Roster

def Answer.verdict? (name : String) : Answer → Option Verdict
  | .round (.results results) => results.find? name
  | .reply (.ok (.verdict v)) => some v
  | _ => none

variable {s t : Session} {checks : List (String × Probe)} {r : Roster} {place : Place}
  {name : String}

/-! ### Together -/

namespace Session

theorem begunAll_checks (s : Session) (checks : List (String × Probe)) :
    (s.begunAll checks).map (fun b => (b.name, b.probe)) = checks := by
  induction checks generalizing s with
  | nil => rfl
  | cons e rest ih => simp [begunAll, ih]

theorem mem_of_begunAll {b : Begun} (member : b ∈ s.begunAll checks) :
    (b.name, b.probe) ∈ checks :=
  s.begunAll_checks checks ▸ List.mem_map_of_mem member

theorem launchAll_jobs_begun (s : Session) (checks : List (String × Probe)) :
    (s.launchAll checks).2 = (s.begunAll checks).map (Begun.job s.now) := by
  induction checks generalizing s with
  | nil => rfl
  | cons e rest ih =>
    have later := ih (s.launch e.2).1
    rw [now_launch] at later
    simp only [launchAll, begunAll, List.map_cons, later, launch_course]
    rfl

/-- The check has begun once and left nothing at the place yet but what it has foreseen. -/
def Awaits (s t : Session) (place : Place) (b : Begun) : Prop :=
  b.world.read place = s.world.read place ∧
  t.foreseen place = (b.probe.settled b.world).read place ∧
  (t.outstanding place).length ≤ 1 ∧
  ∀ q ∈ t.outstanding place, ∃ after effects outcome,
    b.course = .ends (after + 1) effects outcome ∧ q.due = s.now + (after + 1)

/-- When only the check of one name touches a place, its begin is all that is foreseen there. -/
theorem launchAll_at (ascending : Ascending checks)
    (others : ∀ e ∈ checks, e.1 ≠ name → place ∉ e.2.places) (free : s.outstanding place = []) :
    (Begun.under name (s.begunAll checks) = [] ∧
      (s.launchAll checks).1.world.read place = s.world.read place ∧
      (s.launchAll checks).1.outstanding place = []) ∨
    ∃ b, Begun.under name (s.begunAll checks) = [b] ∧ s.Awaits (s.launchAll checks).1 place b := by
  induction checks generalizing s with
  | nil => exact .inl ⟨rfl, rfl, free⟩
  | cons e rest ih =>
    have different := ascending.different
    obtain ⟨-, ascending⟩ := List.pairwise_cons.mp ascending
    obtain ⟨first, later⟩ := List.forall_mem_cons.mp others
    have launched : (s.launchAll (e :: rest)).1 = ((s.launch e.2).1.launchAll rest).1 := rfl
    rw [launched, begunAll]
    by_cases same : e.1 = name
    · subst same
      obtain ⟨read, outstanding⟩ := launchAll_other
        (fun f member => later f member (different f member)) (s.launch e.2).1
      have nothing : Begun.under e.1 ((s.launch e.2).1.begunAll rest) = [] :=
        Begun.under_eq_nil fun b member => different _ (mem_of_begunAll member)
      obtain ⟨few, due⟩ := outstanding_launch_own free e.2
      refine .inr ⟨⟨e.1, e.2, s.world⟩, ?_, rfl, ?_, outstanding ▸ few, outstanding ▸ due⟩
      · rw [Begun.under_cons_self ⟨e.1, e.2, s.world⟩, nothing]
      · exact (foreseen_congr outstanding read).trans (foreseen_launch free e.2)
    · have untouched := first same
      have free : (s.launch e.2).1.outstanding place = [] :=
        (outstanding_launch_other untouched s).trans free
      rw [Begun.under_cons_other (b := ⟨e.1, e.2, s.world⟩) same]
      rcases ih ascending later free with ⟨nothing, read, quiet⟩ | ⟨b, only, began, ahead⟩
      · exact .inl ⟨nothing, read.trans (read_launch untouched s), quiet⟩
      · rw [now_launch] at ahead
        exact .inr ⟨b, only, began.trans (read_launch untouched s), ahead⟩

theorem queued_awaitAll (s : Session) (start timeout kept : Nat) (jobs : List Job) :
    (s.awaitAll start timeout kept jobs).1.queued = s.queued :=
  (s.runTo_parts _).2

/-- Who waits for the check until it has ended finds what was foreseen. -/
theorem awaitAll_at {b : Begun} (awaits : s.Awaits t place b) {jobs : List Job}
    (job : b.job s.now ∈ jobs) {timeout : Nat} (kept : Nat)
    (inTime : b.EndsBy timeout) :
    let round := (t.awaitAll s.now timeout kept jobs).1
    round.world.read place = (b.probe.settled b.world).read place ∧
      round.outstanding place = [] := by
  obtain ⟨-, foreseen, few, due⟩ := awaits
  obtain ⟨after, effects, outcome, course, early⟩ := inTime
  have last : (b.job s.now).settled (s.now + timeout) ≤ (collect (s.now + timeout) s.now jobs).1 :=
    settled_le_collect job s.now
  have passed : ∀ q ∈ t.outstanding place,
      q.due ≤ (collect (s.now + timeout) s.now jobs).1 := by
    intro q member
    obtain ⟨_, _, _, same, at_⟩ := due q member
    obtain ⟨rfl, -, -⟩ := Course.ends.inj (course.symm.trans same)
    simp only [Begun.job, course, Job.ofCourse, Job.settled] at last
    omega
  obtain ⟨read, free⟩ := read_runTo few passed
  exact ⟨read.trans foreseen, free⟩

end Session

/-! ### One after another -/

namespace Roster

theorem mem_of_begunFrom {b : Begun} (member : b ∈ begunFrom s checks) :
    (b.name, b.probe) ∈ checks := by
  induction checks generalizing s with
  | nil => cases member
  | cons e rest ih =>
    rw [begunFrom] at member
    split at member
    · rcases List.mem_cons.mp member with rfl | later
      · exact List.mem_cons_self
      · split at later
        · exact List.mem_cons_of_mem _ (ih later)
        · cases later
    · exact List.mem_cons_of_mem _ (ih member)

/-- How a round that gives results goes on after an active check. -/
theorem runFrom_active {e : String × Probe} {rest : List (String × Probe)} {acc results : Results}
    (active : e.2.isActive s.world = true)
    (round : runFrom s acc (e :: rest) = some (t, .results results)) :
    ∃ u v, s.safeCheck e.2 = some (u, .verdict v) ∧
      begunFrom s (e :: rest) = ⟨e.1, e.2, s.world⟩ :: begunFrom u rest ∧
      runFrom u (acc.insert e.1 v) rest = some (t, .results results) := by
  rw [runFrom, if_pos active] at round
  rw [begunFrom, if_pos active]
  split at round
  · cases round
  · rename_i u v ended
    exact ⟨u, v, ended, by rw [ended], round⟩
  · cases round

theorem runFrom_inactive {e : String × Probe} (inactive : ¬e.2.isActive s.world = true)
    (rest : List (String × Probe)) (acc : Results) :
    runFrom s acc (e :: rest) = runFrom s acc rest ∧
      begunFrom s (e :: rest) = begunFrom s rest := by
  rw [runFrom, if_neg inactive, begunFrom, if_neg inactive]
  exact ⟨rfl, rfl⟩

theorem names_begunFrom {acc results : Results}
    (round : runFrom s acc checks = some (t, .results results)) :
    (begunFrom s checks).map (·.name) =
      (checks.filter fun e => e.2.isActive s.world).map (·.1) := by
  induction checks generalizing s acc with
  | nil => rfl
  | cons e rest ih =>
    by_cases active : e.2.isActive s.world = true
    · obtain ⟨u, v, ended, begun, round⟩ := runFrom_active active round
      have off := off_safeCheck ended
      have same : (fun f : String × Probe => f.2.isActive u.world) =
          fun f => f.2.isActive s.world := funext fun f => f.2.isActive_congr off
      rw [begun, List.map_cons, ih round, same, List.filter_cons, if_pos active, List.map_cons]
    · obtain ⟨unchanged, begun⟩ := runFrom_inactive active rest acc
      rw [begun, ih (unchanged ▸ round), List.filter_cons, if_neg active]

theorem told_runFrom (ascending : Ascending checks) {acc results : Results}
    (round : runFrom s acc checks = some (t, .results results)) :
    (∀ b ∈ begunFrom s checks, ∀ v, b.Replies v → results.find? b.name = some v) ∧
      ∀ name, (∀ e ∈ checks, e.1 ≠ name) → results.find? name = acc.find? name := by
  induction checks generalizing s acc with
  | nil =>
    obtain ⟨-, same⟩ := Prod.mk.inj (Option.some.inj round)
    obtain rfl := RoundEnd.results.inj same
    exact ⟨by simp [begunFrom], fun _ _ => rfl⟩
  | cons e rest ih =>
    have different := ascending.different
    obtain ⟨-, ascending⟩ := List.pairwise_cons.mp ascending
    by_cases active : e.2.isActive s.world = true
    · obtain ⟨u, v, ended, begun, round⟩ := runFrom_active active round
      obtain ⟨told, kept⟩ := ih ascending round
      have found : results.find? e.1 = some v := by
        rw [kept e.1 different, NameMap.find?_insert, if_pos rfl]
      refine ⟨?_, fun name others => ?_⟩
      · rw [begun]
        refine List.forall_mem_cons.mpr ⟨fun v' replied => ?_, told⟩
        obtain ⟨_, _, outcome, course, reply⟩ := replied
        obtain ⟨_, _, outcome', course', reply'⟩ := Session.course_of_safeCheck ended
        obtain ⟨-, -, rfl⟩ := Course.ends.inj (course.symm.trans course')
        rw [found, Reply.verdict.inj (reply'.symm.trans reply)]
      · obtain ⟨first, later⟩ := List.forall_mem_cons.mp others
        rw [kept name later, NameMap.find?_insert, if_neg (Ne.symm first)]
    · obtain ⟨unchanged, begun⟩ := runFrom_inactive active rest acc
      obtain ⟨told, kept⟩ := ih ascending (unchanged ▸ round)
      rw [begun]
      exact ⟨told, fun name others => kept name (List.forall_mem_cons.mp others).2⟩

theorem ends_of_begunFrom {acc results : Results}
    (round : runFrom s acc checks = some (t, .results results)) :
    ∀ b ∈ begunFrom s checks, ∃ after effects outcome, b.course = .ends after effects outcome := by
  induction checks generalizing s acc with
  | nil => simp [begunFrom]
  | cons e rest ih =>
    by_cases active : e.2.isActive s.world = true
    · obtain ⟨u, v, ended, begun, round⟩ := runFrom_active active round
      obtain ⟨after, effects, outcome, course, -⟩ := Session.course_of_safeCheck ended
      rw [begun]
      exact List.forall_mem_cons.mpr ⟨⟨after, effects, outcome, course⟩, ih round⟩
    · obtain ⟨unchanged, begun⟩ := runFrom_inactive active rest acc
      rw [begun]
      exact ih (unchanged ▸ round)

/-- When only the check of one name touches a place, it is left as this check leaves it. -/
def Leaves (s t : Session) (place : Place) (begun : List Begun) : Prop :=
  begun = [] ∧ t.world.read place = s.world.read place ∨
    ∃ b, begun = [b] ∧ b.world.read place = s.world.read place ∧
      t.world.read place = (b.probe.settled b.world).read place

theorem runFrom_at (ascending : Ascending checks)
    (others : ∀ e ∈ checks, e.1 ≠ name → place ∉ e.2.places) (spares : s.Spares place)
    {acc results : Results} (round : runFrom s acc checks = some (t, .results results)) :
    t.Spares place ∧ Leaves s t place (Begun.under name (begunFrom s checks)) := by
  induction checks generalizing s acc with
  | nil =>
    obtain ⟨rfl, -⟩ := Prod.mk.inj (Option.some.inj round)
    exact ⟨spares, .inl ⟨rfl, rfl⟩⟩
  | cons e rest ih =>
    have different := ascending.different
    obtain ⟨-, ascending⟩ := List.pairwise_cons.mp ascending
    obtain ⟨first, later⟩ := List.forall_mem_cons.mp others
    by_cases active : e.2.isActive s.world = true
    · obtain ⟨u, v, ended, begun, round⟩ := runFrom_active active round
      obtain ⟨left, spares'⟩ := Session.safeCheck_spared spares ended
      rw [begun]
      by_cases same : e.1 = name
      · subst same
        have kept := (stable_place place (u.world.read place)).runFrom
          (fun f member => later f member (different f member))
          (Session.keeps_place_iff.mpr ⟨spares', rfl⟩) round
        obtain ⟨free, read⟩ := Session.keeps_place_iff.mp kept
        have nothing : Begun.under e.1 (begunFrom u rest) = [] :=
          Begun.under_eq_nil fun b member => different _ (mem_of_begunFrom member)
        refine ⟨free, .inr ⟨⟨e.1, e.2, s.world⟩, ?_, rfl, read.trans left⟩⟩
        rw [Begun.under_cons_self ⟨e.1, e.2, s.world⟩, nothing]
      · have untouched := left.trans (Probe.read_settled (first same) s.world)
        rw [Begun.under_cons_other (b := ⟨e.1, e.2, s.world⟩) same]
        obtain ⟨free, ⟨nothing, read⟩ | ⟨b, only, began, read⟩⟩ :=
          ih ascending later spares' round
        · exact ⟨free, .inl ⟨nothing, read.trans untouched⟩⟩
        · exact ⟨free, .inr ⟨b, only, began.trans untouched, read⟩⟩
    · obtain ⟨unchanged, begun⟩ := runFrom_inactive active rest acc
      rw [begun]
      exact ih ascending later spares (unchanged ▸ round)

/-! ### Evaluations -/

theorem begun_get? {e : Evaluation} {b : Begun} (member : b ∈ r.begun s e) :
    r.get? b.name = some b.probe := by
  have listed : ∀ {f : String × Probe}, f ∈ r.checks.entries → r.get? f.1 = some f.2 :=
    fun inside => NameMap.find?_of_mem inside
  cases e with
  | run => exact listed (mem_of_begunFrom member)
  | runOne name =>
    obtain ⟨p, found, rfl⟩ := List.mem_map.mp member
    exact Option.mem_toList.mp found
  | fanOut workers timeout =>
    exact listed (List.mem_filter.mp (Session.mem_of_begunAll member)).1
  | fanOutCut workers timeout time => cases member

variable {e : Evaluation} {answer : Answer}

theorem run_of_evaluate? {results : Results}
    (evaluated : r.evaluate? s .run = some (t, .round (.results results))) :
    runFrom s .empty r.checks.entries = some (t, .results results) := by
  obtain ⟨⟨u, ended⟩, round, same⟩ := Option.map_eq_some_iff.mp evaluated
  cases same
  exact round

theorem fanOut_of_evaluate? {workers : Workers} {timeout : Nat}
    (evaluated : r.evaluate? s (.fanOut workers timeout) = some (t, answer)) :
    ∃ results, answer = .round (.results results) ∧ r.fanOut s workers timeout = (t, results) := by
  cases evaluated
  exact ⟨_, rfl, rfl⟩

theorem names_begun (evaluated : r.evaluate? s e = some (t, answer))
    (completes : r.Completes s e answer) :
    (r.begun s e).map (·.name) = r.asked s.world e := by
  cases e with
  | run =>
    obtain ⟨results, rfl⟩ := completes
    exact names_begunFrom (run_of_evaluate? evaluated)
  | runOne name =>
    rw [begun, asked]
    cases r.get? name <;> rfl
  | fanOut workers timeout =>
    have names := congrArg (List.map Prod.fst)
      (s.beginQueued.begunAll_checks (r.active s.world))
    rwa [List.map_map] at names
  | fanOutCut workers timeout time => cases completes

theorem names_begun_fanOut (workers : Workers) (timeout : Nat) :
    (r.begun s (.fanOut workers timeout)).map (·.name) = (r.active s.world).map (·.1) := by
  have names := congrArg (List.map Prod.fst) (s.beginQueued.begunAll_checks (r.active s.world))
  rwa [List.map_map] at names

/-- A round that has time waits for all that it has begun. -/
theorem fanOut_waits {workers : Workers} {timeout : Nat} (live : workers.isLive = true)
    (positive : 0 < timeout) (nonempty : r.active s.world ≠ []) :
    r.fanOut s workers timeout = (s.beginQueued.launchAll (r.active s.world)).1.awaitAll s.now
      timeout s.reports.length ((r.begun s (.fanOut workers timeout)).map (Begun.job s.now)) := by
  have jobs := Session.launchAll_jobs_begun s.beginQueued (r.active s.world)
  rw [Session.now_beginQueued] at jobs
  rw [fanOut_launches nonempty live (by omega), jobs]
  rfl

theorem active_of_begun {workers : Workers} {timeout : Nat} {b : Begun}
    (member : b ∈ r.begun s (.fanOut workers timeout)) : r.active s.world ≠ [] := by
  intro empty
  simp [begun, empty, Session.begunAll] at member

/-- A completed round has time, unless there is nothing to wait for. -/
theorem Completes.positive {workers : Workers} {timeout : Nat}
    (completes : r.Completes s (.fanOut workers timeout) answer)
    (nonempty : r.active s.world ≠ []) : 0 < timeout := by
  obtain ⟨f, rest, same⟩ := List.exists_cons_of_ne_nil nonempty
  have first : (⟨f.1, f.2, s.beginQueued.world⟩ : Begun) ∈ r.begun s (.fanOut workers timeout) := by
    simp [begun, same, Session.begunAll]
  exact (completes.2 _ first).1

theorem ends_of_begun (evaluated : r.evaluate? s e = some (t, answer))
    (completes : r.Completes s e answer) {b : Begun} (member : b ∈ r.begun s e) :
    ∃ after effects outcome, b.course = .ends after effects outcome := by
  cases e with
  | run =>
    obtain ⟨results, rfl⟩ := completes
    exact ends_of_begunFrom (run_of_evaluate? evaluated) b member
  | runOne name =>
    obtain ⟨p, found, rfl⟩ := List.mem_map.mp member
    have found := Option.mem_toList.mp found
    simp only [evaluate?, runOne, found, Option.map_map, Option.map_eq_some_iff] at evaluated
    obtain ⟨⟨u, reply⟩, ended, -⟩ := evaluated
    obtain ⟨after, effects, outcome, course, -⟩ := Session.course_of_safeCheck ended
    exact ⟨after, effects, outcome, course⟩
  | fanOut workers timeout =>
    obtain ⟨-, after, effects, outcome, course, -⟩ := completes.2 b member
    exact ⟨after, effects, outcome, course⟩
  | fanOutCut workers timeout time => cases completes

/-! ### What an evaluation tells -/

/-- A round tells what a check has replied in time, whatever becomes of the others. -/
theorem told_fanOut {workers : Workers} {timeout : Nat} {results : Results}
    (round : r.fanOut s workers timeout = (t, results)) (live : workers.isLive = true)
    (positive : 0 < timeout) {b : Begun} (member : b ∈ r.begun s (.fanOut workers timeout))
    (inTime : b.EndsBy timeout) {v : Verdict} (tells : b.Tells v) :
    results.find? b.name = some v := by
  obtain ⟨after, effects, outcome, course, early⟩ := inTime
  have ascending : (((r.begun s (.fanOut workers timeout)).map (Begun.job s.now)).map
      Job.name).Pairwise (· < ·) := by
    rw [List.map_map,
      show Job.name ∘ Begun.job s.now = Begun.name from funext fun b => Job.name_ofCourse ..,
      names_begun_fanOut]
    exact List.pairwise_map.mpr (r.ascending_active s.world)
  have entries := Session.entries_awaitAll ascending
    (s.beginQueued.launchAll (r.active s.world)).1 s.now timeout s.reports.length
  rw [← fanOut_waits live positive (active_of_begun member), round, List.map_map] at entries
  have told : ((b.job s.now).seen (s.now + timeout)).verdict = v := by
    obtain ⟨_, _, _, same, rfl⟩ := tells
    obtain ⟨rfl, rfl, rfl⟩ := Course.ends.inj (course.symm.trans same)
    have inTime : s.now + after ≤ s.now + timeout := by omega
    simp [Begun.job, course, Job.ofCourse, Job.seen, inTime]
  have listed : (b.name, v) ∈ results.entries := by
    rw [entries, List.mem_map]
    exact ⟨b, member, by simp [Begun.job, told.symm]⟩
  exact NameMap.find?_of_mem listed

theorem told_of_begun (evaluated : r.evaluate? s e = some (t, answer))
    (completes : r.Completes s e answer) {b : Begun} (member : b ∈ r.begun s e) {v : Verdict}
    (replied : b.Replies v) : answer.verdict? b.name = some v := by
  cases e with
  | run =>
    obtain ⟨results, rfl⟩ := completes
    exact (told_runFrom r.checks.ascending (run_of_evaluate? evaluated)).1 b member v replied
  | runOne name =>
    obtain ⟨p, found, rfl⟩ := List.mem_map.mp member
    have found := Option.mem_toList.mp found
    obtain ⟨after, effects, outcome, course, reply⟩ := replied
    have course : (p.begin s.world).2 = .ends after effects outcome := course
    simp only [evaluate?, runOne, found, Session.safeCheck_eq, course, Option.map_some,
      Option.some.injEq, Prod.mk.injEq] at evaluated
    rw [← evaluated.2, reply]
    rfl
  | fanOut workers timeout =>
    obtain ⟨results, rfl, round⟩ := fanOut_of_evaluate? evaluated
    obtain ⟨positive, inTime⟩ := completes.2 b member
    exact told_fanOut round completes.1 positive member inTime replied.tells
  | fanOutCut workers timeout time => cases completes

/-! ### What an evaluation leaves -/

theorem runOne_at {asked : String} {told : Except Fault Reply}
    (others : ∀ f ∈ r.checks.entries, f.1 ≠ name → place ∉ f.2.places)
    (spares : s.Spares place) (checked : r.runOne s asked = some (t, told)) :
    t.Spares place ∧ Leaves s t place (Begun.under name (r.begun s (.runOne asked))) := by
  rw [runOne] at checked
  rw [begun]
  cases found : r.get? asked with
  | none =>
    rw [found] at checked
    cases checked
    exact ⟨spares, .inl ⟨rfl, rfl⟩⟩
  | some p =>
    rw [found] at checked
    obtain ⟨⟨u, reply⟩, ended, same⟩ := Option.map_eq_some_iff.mp checked
    cases same
    obtain ⟨left, free⟩ := Session.safeCheck_spared spares ended
    refine ⟨free, ?_⟩
    by_cases same : asked = name
    · subst same
      exact .inr ⟨⟨asked, p, s.world⟩, Begun.under_cons_self ⟨asked, p, s.world⟩ [], rfl, left⟩
    · have outside : place ∉ p.places := others _ (NameMap.mem_of_find? found) same
      exact .inl ⟨Begun.under_cons_other (b := ⟨asked, p, s.world⟩) same [],
        left.trans (Probe.read_settled outside s.world)⟩

theorem fanOut_at {workers : Workers} {timeout : Nat} {results : Results}
    (others : ∀ f ∈ r.checks.entries, f.1 ≠ name → place ∉ f.2.places) (spares : s.Spares place)
    (round : r.fanOut s workers timeout = (t, results)) (live : workers.isLive = true)
    (positive : r.active s.world ≠ [] → 0 < timeout)
    (inTime : ∀ b ∈ Begun.under name (r.begun s (.fanOut workers timeout)), b.EndsBy timeout) :
    t.Spares place ∧
      Leaves s t place (Begun.under name (r.begun s (.fanOut workers timeout))) := by
  by_cases empty : r.active s.world = []
  · have kept := (stable_place place (s.world.read place)).fanOut (r := r) (by simp [empty])
      (Session.keeps_place_iff.mpr ⟨spares, rfl⟩) workers timeout
    rw [round] at kept
    obtain ⟨free, read⟩ := Session.keeps_place_iff.mp kept
    exact ⟨free, .inl ⟨by simp [begun, empty, Session.begunAll, Begun.under], read⟩⟩
  · rw [fanOut_waits live (positive empty) empty] at round
    obtain rfl : _ = t := congrArg Prod.fst round
    have inside : ∀ f ∈ r.active s.world, f.1 ≠ name → place ∉ f.2.places :=
      fun f member => others f (List.mem_filter.mp member).1
    obtain ⟨began, -⟩ := Session.beginQueued_spared spares.queued
    have idle := spares.beginQueued
    have queued : ∀ q ∈ (s.beginQueued.launchAll (r.active s.world)).1.queued,
        place ∉ q.places := Session.queued_launchAll s.beginQueued _ ▸ idle.queued
    rcases Session.launchAll_at (r.ascending_active s.world) inside idle.free with
      ⟨nothing, read, free⟩ | ⟨b, only, awaits⟩
    · have kept := (stable_place place _).awaitAll
        (Session.keeps_place_iff.mpr ⟨⟨free, queued⟩, rfl⟩) s.now timeout s.reports.length
        ((r.begun s (.fanOut workers timeout)).map (Begun.job s.now))
      obtain ⟨spared, left⟩ := Session.keeps_place_iff.mp kept
      exact ⟨spared, .inl ⟨nothing, left.trans (read.trans began)⟩⟩
    · have ours : b ∈ Begun.under name (r.begun s (.fanOut workers timeout)) :=
        only ▸ List.mem_singleton_self b
      have member := List.mem_of_mem_filter ours
      have job := List.mem_map_of_mem (f := Begun.job s.now) member
      rw [← s.now_beginQueued] at job ⊢
      obtain ⟨left, free⟩ :=
        Session.awaitAll_at awaits job s.reports.length (inTime b ours)
      refine ⟨⟨free, ?_⟩, .inr ⟨b, only, awaits.1.trans began, left⟩⟩
      rwa [Session.queued_awaitAll]

theorem evaluate?_at (others : ∀ f ∈ r.checks.entries, f.1 ≠ name → place ∉ f.2.places)
    (spares : s.Spares place) (evaluated : r.evaluate? s e = some (t, answer))
    (completes : r.Completes s e answer) :
    t.Spares place ∧ Leaves s t place (Begun.under name (r.begun s e)) := by
  cases e with
  | run =>
    obtain ⟨results, rfl⟩ := completes
    exact runFrom_at r.checks.ascending others spares (run_of_evaluate? evaluated)
  | runOne asked =>
    obtain ⟨⟨u, told⟩, checked, same⟩ := Option.map_eq_some_iff.mp evaluated
    cases same
    exact runOne_at others spares checked
  | fanOut workers timeout =>
    obtain ⟨results, rfl, round⟩ := fanOut_of_evaluate? evaluated
    exact fanOut_at others spares round completes.1 completes.positive
      fun b ours => (completes.2 b (List.mem_of_mem_filter ours)).2
  | fanOutCut workers timeout time => cases completes

end Roster

end HealthWatch
