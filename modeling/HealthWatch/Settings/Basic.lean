import HealthWatch.Fault
import HealthWatch.NameMap

/-!
# Settings

The settings of a heartbeat: its delays, the size of its pool, which checks it runs and which of
them it skips. Delays are whole milliseconds of 64 bits; a setter cuts a duration to milliseconds.
-/

namespace HealthWatch

structure Duration where
  seconds : Nat
  nanos : Nat
  deriving DecidableEq, Repr

namespace Duration

def millis (d : Duration) : Nat :=
  d.seconds * 1000 + d.nanos / 1000000

def ofMillis (ms : Nat) : Duration :=
  ⟨ms / 1000, ms % 1000 * 1000000⟩

end Duration

/-- The settings of a heartbeat. Delays are in milliseconds. -/
@[ext]
structure Settings where
  initialDelay : UInt64
  period : UInt64
  poolSize : UInt64
  timeout : UInt64
  /-- The checks to run; all registered ones if unset. -/
  allowlist : Option (List String)
  /-- The beats to skip between two runs of a check, by name. -/
  skips : NameMap UInt32

namespace Settings

def defaultPoolSize : UInt64 := 4

def default : Settings where
  initialDelay := 0
  period := 60000
  poolSize := defaultPoolSize
  timeout := 10000
  allowlist := none
  skips := .empty

/-- What makes the settings unusable, the first thing found. -/
def problem? (s : Settings) : Option SetupFault :=
  if s.period = 0 then some .zeroHeartbeatPeriod
  else if s.timeout = 0 then some .zeroTimeout
  else if s.poolSize = 0 then some .emptyPool
  else ((s.allowlist.getD []).find? Text.blank).map .blankAllowlistName

/-- Refuses settings that cannot be honoured. -/
def validate (s : Settings) : Except Fault Unit :=
  match s.problem? with
  | some fault => .error (.invalidSetup fault)
  | none => .ok ()

/-! ### Setters -/

/-- The milliseconds of a duration as a setting, modulo `2 ^ 64`. -/
def delay (d : Duration) : UInt64 :=
  UInt64.ofNat d.millis

def withInitialDelay (s : Settings) (d : Duration) : Settings :=
  { s with initialDelay := delay d }

def withPeriod (s : Settings) (d : Duration) : Settings :=
  { s with period := delay d }

def withTimeout (s : Settings) (d : Duration) : Settings :=
  { s with timeout := delay d }

def withPoolSize (s : Settings) (size : UInt64) : Settings :=
  { s with poolSize := size }

def withAllowlist (s : Settings) (names : List String) : Settings :=
  { s with allowlist := some names }

def withSkip (s : Settings) (name : String) (count : UInt32) : Settings :=
  { s with skips := s.skips.insert name count }

/-! ### Delays -/

inductive Delay where
  | initial
  | period
  | timeout
  deriving DecidableEq, Repr

def delayMillis (s : Settings) : Delay → UInt64
  | .initial => s.initialDelay
  | .period => s.period
  | .timeout => s.timeout

def length (s : Settings) (which : Delay) : Duration :=
  .ofMillis (s.delayMillis which).toNat

/-- The settings with another delay. -/
def withDelay (s : Settings) : Delay → Duration → Settings
  | .initial => s.withInitialDelay
  | .period => s.withPeriod
  | .timeout => s.withTimeout

end Settings

end HealthWatch
