import HealthWatch.Roster
import HealthWatch.Workers

/-!
# Fanned-out rounds

`Roster.fanOut` gives every active check to a pool as a job of its own and waits for all of them
up to one deadline. The jobs are awaited one after another, by name: `collect` does so for jobs
whose ends are known. A job that has not ended by the deadline is reported as timed out and goes
on. Without any time to wait, the jobs on the thread of the session have not even begun.
-/

namespace HealthWatch

inductive JobEnd where
  | verdict (v : Verdict)
  | panicked (text : String)
  | cancelled
  deriving DecidableEq, Repr

namespace JobEnd

/-- Why a job ended without a verdict; the number of the task is not told. -/
def problem? : JobEnd → Option String
  | .verdict _ => none
  | .panicked text => some ("task # panicked with message " ++ Text.quoted text)
  | .cancelled => some "task # was cancelled"

def ofReply : Reply → JobEnd
  | .verdict v => .verdict v
  | .died text => .panicked text

end JobEnd

/-- A job is the task of a round that evaluates one check: when and how it ends, if it ever does. -/
structure Job where
  name : String
  ends? : Option (Nat × JobEnd)

namespace Job

def ofCourse (now : Nat) (name : String) (p : Probe) : Course → Job
  | .never => ⟨name, none⟩
  | .ends after _ outcome => ⟨name, some (now + after, .ofReply (p.reply outcome))⟩

def cut (j : Job) (time : Nat) : Job :=
  match j.ends? with
  | some (at_, _) => if at_ ≤ time then j else { j with ends? := some (time, .cancelled) }
  | none => { j with ends? := some (time, .cancelled) }

end Job

inductive Awaited where
  | ended (e : JobEnd)
  | late
  deriving DecidableEq, Repr

namespace Awaited

def verdict : Awaited → Verdict
  | .late => .timedOut
  | .ended (.verdict v) => v
  | .ended e => .critical ("health check task failed: " ++ e.problem?.getD "")

def event? (name : String) (timeout : Nat) : Awaited → Option Event
  | .late => some (.timedOut name timeout)
  | .ended e => e.problem?.map (.taskFailed name)

end Awaited

/-- Waits at the time `now` for a job, at most up to the deadline: the time when the waiting ends,
and what is then known. A job that has ended is seen even at the deadline. -/
def Job.await (deadline now : Nat) (j : Job) : Nat × Awaited :=
  match j.ends? with
  | some (at_, e) => if at_ ≤ deadline then (max now at_, .ended e) else (max now deadline, .late)
  | none => (max now deadline, .late)

/-- Waits for jobs one after another: the time at the end, and each job with what is known of it and
when the waiting for it ended. -/
def collect (deadline now : Nat) : List Job → Nat × List (Job × Nat × Awaited)
  | [] => (now, [])
  | j :: rest =>
    let (time, awaited) := j.await deadline now
    let (last, known) := collect deadline time rest
    (last, (j, time, awaited) :: known)

namespace Session

/-- Begins the checks as jobs, one after another. The threads of an owned pool may begin the tasks
of a round in any order, of which this is one; it makes a difference only to checks that share a
leaf or a cell. -/
def launchAll (s : Session) : List (String × Probe) → Session × List Job
  | [] => (s, [])
  | (name, p) :: rest =>
    let (s', course) := s.launch p
    let (s'', jobs) := s'.launchAll rest
    (s'', .ofCourse s.now name p course :: jobs)

/-- Begins the checks as jobs of a pool. A pool that is down cancels them unbegun. -/
def spawnAll (s : Session) (workers : Workers) (checks : List (String × Probe)) :
    Session × List Job :=
  if workers.isLive then s.launchAll checks
  else (s, checks.map fun e => ⟨e.1, some (s.now, .cancelled)⟩)

def giveUpAfter (s : Session) (time : Nat) : Session :=
  { s with pending := s.pending.filter fun p => p.due ≤ time }

/-- Adds reports and sorts all that came after the first `kept` ones by time. -/
def addReports (s : Session) (kept : Nat) (added : List (Nat × Event)) : Session :=
  let recent := (s.reports.drop kept ++ added).mergeSort fun a b => a.1 ≤ b.1
  { s with reports := s.reports.take kept ++ recent }

/-- Shuts the pool of the jobs down at a time. Nothing happens to the jobs of a borrowed pool. -/
def cutAt (s : Session) (workers : Workers) (time : Nat) (jobs : List Job) : Session × List Job :=
  if workers.isOwned then (s.giveUpAfter time, jobs.map fun j => j.cut time) else (s, jobs)

def shutdown (s : Session) (workers : Workers) : Session :=
  if workers.isOwned then s.giveUp else s

/-- Gives checks to the thread of the session and does not wait for them: each is late. -/
def post (s : Session) (checks : List (String × Probe)) : Session × Results :=
  ({ s with
      queued := s.queued ++ checks.map (·.2)
      reports := s.reports ++ checks.map fun e => (s.now, .timedOut e.1 0) },
    .ofList (checks.map fun e => (e.1, .timedOut)))

/-- Waits for jobs that began at `start`, at most `timeout`, and reports those without a verdict. -/
def awaitAll (s : Session) (start timeout kept : Nat) (jobs : List Job) : Session × Results :=
  let (last, known) := collect (start + timeout) start jobs
  let added := known.filterMap fun k => (k.2.2.event? k.1.name timeout).map fun e => (k.2.1, e)
  ((s.runTo last).addReports kept added, .ofList (known.map fun k => (k.1.name, k.2.2.verdict)))

end Session

/-- A time limit on a clock that does not stand still while the thread is busy: it ends with the
millisecond in which it falls. -/
def liveLimit (timeout : Nat) : Nat :=
  max 1 timeout

namespace Roster

/-- Evaluates the active checks on a pool, waiting at most `timeout` for all of them together. Time
limits are whole milliseconds. A deadline beyond the range of the clock, with which the caller of a
round dies, is left out. -/
def fanOut (r : Roster) (s : Session) (workers : Workers) (timeout : Nat) : Session × Results :=
  let checks := r.active s.world
  if timeout = 0 && workers.isBorrowed then s.post checks
  else
    let begun := if checks.isEmpty then s else s.beginQueued
    let (s', jobs) := begun.spawnAll workers checks
    s'.awaitAll s.now timeout s.reports.length jobs

/-- The same while the pool is shut down at a time: checks that have not ended by then are
cancelled, unless the pool is borrowed. -/
def fanOutCut (r : Roster) (s : Session) (workers : Workers) (timeout time : Nat) :
    Session × Results :=
  let (s', jobs) := s.spawnAll workers (r.active s.world)
  let (s', jobs) := s'.cutAt workers time jobs
  s'.awaitAll s.now timeout s.reports.length jobs

end Roster

end HealthWatch
