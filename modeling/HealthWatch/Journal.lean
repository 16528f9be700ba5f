import HealthWatch.Numeral.Decimal
import HealthWatch.Status

/-!
# The journal

What the library reports while it works, as events with a level, a text and fields.
-/

namespace HealthWatch

inductive Level where
  | info
  | warn
  | error
  deriving DecidableEq, Repr

def Level.name : Level → String
  | .info => "INFO"
  | .warn => "WARN"
  | .error => "ERROR"

inductive Event where
  /-- A check did not end within its own time limit. -/
  | overran (limit : Nat)
  /-- A task ended without a verdict. -/
  | taskFailed (check problem : String)
  /-- A check was still running at the deadline of its round. -/
  | timedOut (check : String) (timeout : Nat)
  /-- The allowlist names a check that is not registered. -/
  | unregistered (check : String)
  /-- A skip count is set for a check that is not selected. -/
  | idleSkip (check : String)
  /-- The summary of a beat. -/
  | heartbeat (status : Status) (checks : Nat)
  /-- A check in a beat that is not healthy. -/
  | notOk (check : String) (status : Status) (message : String)
  | listenerFailed (beat : Nat) (problem : String)
  | listenerPanicked (beat : Nat)
  deriving DecidableEq, Repr

namespace Event

open Numeral (natural)

def level : Event → Level
  | .heartbeat .. => .info
  | .listenerFailed .. | .listenerPanicked .. => .error
  | _ => .warn

def text : Event → String
  | .overran .. => "Health check exceeded its time limit"
  | .taskFailed .. => "Health check task failed"
  | .timedOut .. => "Health check timed out"
  | .unregistered .. => "Allowlisted health check is not registered"
  | .idleSkip .. => "Skip count set for a health check that will not run"
  | .heartbeat .. => "Heartbeat"
  | .notOk .. => "Health check not OK"
  | .listenerFailed .. => "Heartbeat listener failed"
  | .listenerPanicked .. => "Heartbeat listener panicked"

def fields : Event → List (String × String)
  | .overran limit => [("timeout_ms", natural limit)]
  | .taskFailed check problem => [("check", check), ("error", problem)]
  | .timedOut check timeout => [("check", check), ("timeout_ms", natural timeout)]
  | .unregistered check => [("check", check)]
  | .idleSkip check => [("check", check)]
  | .heartbeat status checks => [("status", status.name), ("checks", natural checks)]
  | .notOk check status message =>
    [("check", check), ("status", status.name), ("code", natural status.code),
      ("message", message)]
  | .listenerFailed beat problem => [("beat", natural beat), ("error", problem)]
  | .listenerPanicked beat => [("beat", natural beat)]

end Event

end HealthWatch
