import HealthWatch.Fanout

/-!
# A round step by step

`Gathering` is a round on a pool while it goes on. Its deadline is set at the begin. The caller
gives the tasks to the pool and then looks at one after another; meanwhile tasks end, another thread
shuts the pool down, and the deadline passes. `steps?` takes all this in any order; `chronicle` is
the order in which it happens to jobs that end at known times.
-/

namespace HealthWatch

structure Gathering where
  workers : Workers
  /-- The checks that have no task yet. -/
  unspawned : List String
  spawned : List String
  /-- How the tasks that have ended did so. -/
  ended? : String → Option JobEnd
  /-- The tasks that the caller still waits for, the next one first. -/
  awaiting : List String
  passed : Bool
  results : Results

namespace Gathering

def begin (workers : Workers) (names : List String) : Gathering :=
  ⟨workers, names, [], fun _ => none, [], false, .empty⟩

def endTask (g : Gathering) (name : String) (e : JobEnd) : Gathering :=
  { g with ended? := fun n => if n = name then some e else g.ended? n }

/-- Gives the next check to the pool. A pool that is down cancels the task at once. -/
def spawn? (g : Gathering) : Option Gathering :=
  match g.unspawned with
  | [] => none
  | name :: rest =>
    some { g with
      unspawned := rest
      spawned := g.spawned ++ [name]
      ended? := fun n => if n = name ∧ g.workers.isLive = false then some .cancelled else g.ended? n
      awaiting := g.awaiting ++ [name] }

def finish? (g : Gathering) (name : String) (reply : Reply) : Option Gathering :=
  if name ∈ g.spawned ∧ g.ended? name = none then some (g.endTask name (.ofReply reply)) else none

/-- Shuts the pool down. An owned one cancels the tasks that have not ended; the others keep their
ends. -/
def shutdown (g : Gathering) : Gathering :=
  if g.workers.isOwned then
    { g with
      workers := g.workers.shutdown
      ended? := fun n => if n ∈ g.spawned then (g.ended? n).or (some .cancelled) else g.ended? n }
  else g

/-- What the caller learns by looking at a task: it asks for the end first, and for the clock only
if there is none. -/
def found? (g : Gathering) (name : String) : Option Awaited :=
  match g.ended? name with
  | some e => some (.ended e)
  | none => if g.passed then some .late else none

/-- The look at the next task that tells the caller what to report. It comes when all tasks are
spawned, and it can come any time after the end of the task or the deadline. -/
def look? (g : Gathering) (name : String) : Option Gathering :=
  match g.unspawned, g.awaiting with
  | [], next :: rest =>
    if next = name then
      (g.found? name).map fun found =>
        { g with awaiting := rest, results := g.results.insert name found.verdict }
    else none
  | _, _ => none

def isOver (g : Gathering) : Prop :=
  g.unspawned = [] ∧ g.awaiting = []

inductive Step where
  | spawn
  | finish (name : String) (reply : Reply)
  | shutdown
  | deadline
  | look (name : String)
  deriving DecidableEq

def step? (g : Gathering) : Step → Option Gathering
  | .spawn => g.spawn?
  | .finish name reply => g.finish? name reply
  | .shutdown => some g.shutdown
  | .deadline => some { g with passed := true }
  | .look name => g.look? name

def steps? (g : Gathering) : List Step → Option Gathering
  | [] => some g
  | step :: rest => (g.step? step).bind fun g => g.steps? rest

/-- What is left to the caller: to spawn the tasks that there are and to look at each once. -/
def ownSteps (g : Gathering) : List Step :=
  List.replicate g.unspawned.length .spawn ++ (g.awaiting ++ g.unspawned).map .look

end Gathering

/-! ### The order of time -/

def JobEnd.reply? : JobEnd → Option Reply
  | .verdict v => some (.verdict v)
  | .panicked text => some (.died text)
  | .cancelled => none

namespace Gathering

def ownEnd? (j : Job) : Option (Nat × Step) :=
  j.ends?.bind fun e => e.2.reply?.map fun reply => (e.1, .finish j.name reply)

def ownEnds (jobs : List Job) (time : Nat) : List (Nat × Step) :=
  ((jobs.filterMap ownEnd?).filter (·.1 ≤ time)).mergeSort fun a b => a.1 ≤ b.1

/-- What happens to jobs whose pool is shut down at a known time. A job that ends at that time does
so first. -/
def timeline (jobs : List Job) (time : Nat) : List (Nat × Step) :=
  ownEnds jobs time ++ [(time, .shutdown)]

def inTime (jobs : List Job) (time deadline : Nat) : List Step :=
  ((timeline jobs time).filter (·.1 ≤ deadline)).map (·.2)

def tooLate (jobs : List Job) (time deadline : Nat) : List Step :=
  ((timeline jobs time).filter (deadline < ·.1)).map (·.2)

/-- The steps of a round that gives all jobs to a pool. At the deadline the caller looks at them one
after another. -/
def chronicle (jobs : List Job) (time deadline : Nat) : List Step :=
  List.replicate jobs.length .spawn ++ (inTime jobs time deadline ++
    .deadline :: (jobs.map (fun j => .look j.name) ++ tooLate jobs time deadline))

end Gathering

def Roster.chronicleCut (r : Roster) (s : Session) (timeout time : Nat) : List Gathering.Step :=
  Gathering.chronicle (s.launchAll (r.active s.world)).2 time (s.now + timeout)

end HealthWatch
