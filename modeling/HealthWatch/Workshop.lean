import HealthWatch.Fanout

/-!
# Pools at work

A `Workshop` is a pool with the session whose tasks it runs. It serves requests in any order: tasks,
checks, rounds of any roster, shutdowns, and whatever else happens meanwhile.
-/

namespace HealthWatch

namespace Session

/-- Gives a check to a pool as a task that nobody waits for. A borrowed pool has it begun when the
thread of the session next waits. -/
def give (s : Session) (workers : Workers) (name : String) (p : Probe) : Session × List Job :=
  if workers.isBorrowed then ({ s with queued := s.queued ++ [p] }, [])
  else s.spawnAll workers [(name, p)]

end Session

structure Workshop where
  workers : Workers
  session : Session

namespace Workshop

inductive Request (α : Type) where
  | spawn (task : String → α)
  | give (name : String) (p : Probe)
  | round (r : Roster) (timeout : Nat)
  | shutdown
  | query
  | pass (ms : Nat)
  | switch (id : String) (on : Bool)

inductive Answer (α : Type) where
  | result (result? : Option α)
  | jobs (jobs : List Job)
  | results (results : Results)
  | pool (size : Nat) (owned : Bool)
  | done

variable {α : Type}

def serve (w : Workshop) : Request α → Workshop × Answer α
  | .spawn task => (w, .result (w.workers.spawn task))
  | .give name p =>
    let (session, jobs) := w.session.give w.workers name p
    ({ w with session }, .jobs jobs)
  | .round r timeout =>
    let (session, results) := r.fanOut w.session w.workers timeout
    ({ w with session }, .results results)
  | .shutdown => (⟨w.workers.shutdown, w.session.shutdown w.workers⟩, .done)
  | .query => (w, .pool w.workers.size w.workers.isOwned)
  | .pass ms => ({ w with session := w.session.advance ms }, .done)
  | .switch id on => ({ w with session := w.session.switch id on }, .done)

/-- Serves requests one after another: the workshop at the end, and the answers. -/
def serveAll (w : Workshop) : List (Request α) → Workshop × List (Answer α)
  | [] => (w, [])
  | request :: rest =>
    let (w', answer) := w.serve request
    let (last, answers) := w'.serveAll rest
    (last, answer :: answers)

end Workshop

end HealthWatch
