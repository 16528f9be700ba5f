import HealthWatch.Scale.Parser

/-!
# Faults

What can go wrong while health checks are set up or driven. What goes wrong inside a check is no
fault: it ends up in a verdict.
-/

namespace HealthWatch

inductive SetupFault where
  | blankCheckName
  | duplicateCheck (name : String)
  | zeroSkipPeriod
  | zeroHeartbeatPeriod
  | zeroTimeout
  | emptyPool
  | blankAllowlistName (name : String)
  /-- A fault told in the words of the caller. -/
  | other (text : String)
  deriving DecidableEq, Repr

def SetupFault.message : SetupFault → String
  | .blankCheckName => "health check name must not be empty"
  | .duplicateCheck name => "health check '" ++ name ++ "' registered twice"
  | .zeroSkipPeriod => "skipping check must run at least every 1st invocation"
  | .zeroHeartbeatPeriod => "heartbeat period must be positive"
  | .zeroTimeout => "health check timeout must be positive"
  | .emptyPool => "worker pool size must be positive"
  | .blankAllowlistName name => "blank health check name in allowlist: '" ++ name ++ "'"
  | .other text => text

inductive Fault where
  | unknownCheck (name : String)
  | alreadyRunning
  | invalidSetup (fault : SetupFault)
  | invalidThresholds (fault : Scale.ParseFault NumeralFault)
  | pool (text : String)
  /-- The layers of settings could not be read. -/
  | unreadableSettings
  deriving DecidableEq, Repr

def Fault.message : Fault → String
  | .unknownCheck name => "unknown health check: " ++ name
  | .alreadyRunning => "heartbeat already running"
  | .invalidSetup fault => "invalid configuration: " ++ fault.message
  | .invalidThresholds fault => "invalid thresholds: " ++ fault.message NumeralFault.message
  | .pool text => "worker pool error: " ++ text
  | .unreadableSettings => "configuration error"

end HealthWatch
