import HealthWatch.Journal
import HealthWatch.Roster

/-!
# Listeners

A listener is told the results of every beat. One keeps the latest results, one reports them, and
others are given by how they respond. What the listeners have received is kept on a `Desk`; a
failing or panicking listener is reported and does not disturb the others.
-/

namespace HealthWatch

inductive Response where
  | done
  | failed (problem : String)
  | panicked
  deriving DecidableEq, Repr

inductive Listener where
  /-- Keeps the results of the latest beat. -/
  | latest
  /-- Reports each beat. -/
  | logging
  /-- Responds to the number and the results of a beat. -/
  | custom (name : String) (respond : Nat → Results → Response)

namespace Listener

def name : Listener → String
  | .latest => "latest"
  | .logging => "logging"
  | .custom name _ => name

/-- How the listener takes a beat. The listeners of the library always succeed. -/
def response (l : Listener) (beat : Nat) (results : Results) : Response :=
  match l with
  | .latest | .logging => .done
  | .custom _ respond => respond beat results

end Listener

/-- The report of a beat: a summary, and one line for each check that is not healthy, by name. -/
def beatReport (results : Results) : List Event :=
  .heartbeat (worstStatus results.values) results.size ::
    (results.entries.filter fun e => !e.2.isHealthy).map fun e =>
      .notOk e.1 e.2.status (e.2.message?.getD "")

structure Delivery where
  listener : String
  beat : Nat
  results : Results

structure Desk where
  latest : Option Results
  deliveries : List Delivery
  reports : List Event

namespace Desk

def empty : Desk := ⟨none, [], []⟩

/-- The status of the latest beat; unknown before the first one. -/
def status (d : Desk) : Status :=
  match d.latest with
  | some results => worstStatus results.values
  | none => .unknown

def get? (d : Desk) (name : String) : Option Verdict :=
  d.latest.bind (·.find? name)

def responseReport (beat : Nat) : Response → List Event
  | .done => []
  | .failed problem => [.listenerFailed beat problem]
  | .panicked => [.listenerPanicked beat]

def notify (d : Desk) (beat : Nat) (results : Results) (l : Listener) : Desk where
  latest :=
    match l with
    | .latest => some results
    | _ => d.latest
  deliveries := d.deliveries ++ [⟨l.name, beat, results⟩]
  reports :=
    let own :=
      match l with
      | .logging => beatReport results
      | _ => []
    d.reports ++ own ++ responseReport beat (l.response beat results)

end Desk

end HealthWatch
