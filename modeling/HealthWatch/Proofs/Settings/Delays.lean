import HealthWatch.Settings.Basic
import Mathlib.Algebra.Group.Nat.Defs
import Mathlib.Order.Bounds.Defs

/-!
# Delays from lengths of time

A setter cuts a length of time to whole milliseconds, and `ofMillis_le_iff` says that this rounds
down. What is left has to fit 64 bits. `delays_round_down` tells what becomes of every length; one
of `2 ^ 64` milliseconds or more does not fit, and `long_period_refused` is the shortest of those.
-/

namespace HealthWatch

namespace Duration

/-- Lengths of time compare by their seconds, and within the same second by their nanoseconds. -/
instance : LE Duration :=
  ⟨fun d e => d.seconds < e.seconds ∨ d.seconds = e.seconds ∧ d.nanos ≤ e.nanos⟩

instance (d e : Duration) : Decidable (d ≤ e) :=
  inferInstanceAs (Decidable (_ ∨ _))

def Proper (d : Duration) : Prop :=
  d.nanos < 1000000000

instance (d : Duration) : Decidable d.Proper :=
  inferInstanceAs (Decidable (_ < _))

def Whole (d : Duration) : Prop :=
  ∃ ms, d = ofMillis ms

theorem le_iff {d e : Duration} :
    d ≤ e ↔ d.seconds < e.seconds ∨ d.seconds = e.seconds ∧ d.nanos ≤ e.nanos :=
  Iff.rfl

theorem le_antisymm {d e : Duration} (below : d ≤ e) (above : e ≤ d) : d = e := by
  obtain ⟨seconds, nanos⟩ := d
  obtain ⟨seconds', nanos'⟩ := e
  rw [le_iff] at below above
  obtain ⟨rfl, rfl⟩ : seconds = seconds' ∧ nanos = nanos' := by
    dsimp only at below above
    omega
  rfl

theorem proper_ofMillis (ms : Nat) : (ofMillis ms).Proper := by
  have below := Nat.mod_lt ms (show 0 < 1000 by decide)
  show ms % 1000 * 1000000 < 1000000000
  omega

@[simp] theorem millis_ofMillis (ms : Nat) : (ofMillis ms).millis = ms := by
  show ms / 1000 * 1000 + ms % 1000 * 1000000 / 1000000 = ms
  omega

variable {d e : Duration}

theorem ofMillis_le_iff (proper : d.Proper) {ms : Nat} : ofMillis ms ≤ d ↔ ms ≤ d.millis := by
  unfold Proper at proper
  rw [le_iff, ofMillis, millis]
  dsimp only
  omega

theorem ofMillis_le_ofMillis {ms ms' : Nat} : ofMillis ms ≤ ofMillis ms' ↔ ms ≤ ms' := by
  rw [ofMillis_le_iff (proper_ofMillis ms'), millis_ofMillis]

theorem millis_le_millis (proper : d.Proper) (le : d ≤ e) : d.millis ≤ e.millis := by
  unfold Proper at proper
  rw [le_iff] at le
  unfold millis
  omega

/-- To round a length of time down is to cut it to its whole milliseconds. -/
theorem isGreatest_iff (proper : d.Proper) :
    IsGreatest {f | f.Whole ∧ f ≤ d} e ↔ e = ofMillis d.millis := by
  have cut : ofMillis d.millis ≤ d := (ofMillis_le_iff proper).mpr (Nat.le_refl _)
  have bounds : ∀ f : Duration, f.Whole → f ≤ d → f ≤ ofMillis d.millis := by
    rintro f ⟨ms, rfl⟩ below
    exact ofMillis_le_ofMillis.mpr ((ofMillis_le_iff proper).mp below)
  constructor
  · rintro ⟨⟨whole, below⟩, greatest⟩
    exact le_antisymm (bounds e whole below) (greatest ⟨⟨_, rfl⟩, cut⟩)
  · rintro rfl
    exact ⟨⟨⟨_, rfl⟩, cut⟩, fun f ⟨whole, below⟩ => bounds f whole below⟩

end Duration

namespace Settings

/-- What is wrong with settings in which a delay is zero. There may be no delay before the first
beat. -/
def Delay.fault? : Delay → Option SetupFault
  | .initial => none
  | .period => some .zeroHeartbeatPeriod
  | .timeout => some .zeroTimeout

variable (s : Settings) (which : Delay) (d : Duration)

theorem delayMillis_withDelay : (s.withDelay which d).delayMillis which = delay d := by
  cases which <;> rfl

/-- A setter changes no other delay and nothing else. -/
theorem withDelay_other :
    (∀ other, other ≠ which → (s.withDelay which d).delayMillis other = s.delayMillis other) ∧
      (s.withDelay which d).poolSize = s.poolSize ∧
      (s.withDelay which d).allowlist = s.allowlist ∧ (s.withDelay which d).skips = s.skips := by
  refine ⟨fun other different => ?_, ?_⟩
  · cases which <;> cases other <;> first | rfl | exact absurd rfl different
  · cases which <;> exact ⟨rfl, rfl, rfl⟩

theorem toNat_delay : (delay d).toNat = d.millis % 2 ^ 64 :=
  UInt64.toNat_ofNat'

theorem delay_eq_zero_iff : delay d = 0 ↔ 2 ^ 64 ∣ d.millis := by
  rw [← UInt64.toNat_inj, toNat_delay, UInt64.toNat_zero, Nat.dvd_iff_mod_eq_zero]

theorem length_withDelay :
    (s.withDelay which d).length which = .ofMillis (d.millis % 2 ^ 64) := by
  rw [length, delayMillis_withDelay, toNat_delay]

variable {s which d}

theorem refused_iff {fault : SetupFault} :
    s.validate = .error (.invalidSetup fault) ↔ s.problem? = some fault := by
  unfold validate
  cases s.problem? <;> simp

/-- Settings are refused for a delay only if it is zero. -/
theorem delayMillis_of_refused {fault : SetupFault} (named : which.fault? = some fault)
    (refused : s.validate = .error (.invalidSetup fault)) : s.delayMillis which = 0 := by
  rw [refused_iff, problem?] at refused
  refine Decidable.byContradiction fun positive => ?_
  cases which with
  | initial => cases named
  | period | timeout =>
    obtain rfl := Option.some.inj named
    rw [delayMillis] at positive
    rw [if_neg positive] at refused
    -- No other branch names the fault.
    repeat' split at refused
    all_goals simp at refused

/-- With other settings that are usable, a delay is refused exactly if no millisecond of it is left.
-/
theorem refused_withDelay_iff {fault : SetupFault} (named : which.fault? = some fault)
    (usable : s.validate = .ok ()) :
    (s.withDelay which d).validate = .error (.invalidSetup fault) ↔ 2 ^ 64 ∣ d.millis := by
  rw [← delay_eq_zero_iff]
  constructor
  · intro refused
    rw [← delayMillis_withDelay s which d]
    exact delayMillis_of_refused named refused
  · intro zero
    rw [refused_iff, problem?]
    cases which with
    | initial => cases named
    | period =>
      obtain rfl := Option.some.inj named
      exact if_pos zero
    | timeout =>
      obtain rfl := Option.some.inj named
      have period : s.period ≠ 0 := by
        intro none
        rw [validate, problem?, if_pos none] at usable
        cases usable
      exact (if_neg period).trans (if_pos zero)

variable (s which)

/-- A delay set from a length of time of less than `2 ^ 64` milliseconds is that length rounded down
to milliseconds; so the order is kept, and a millisecond is not refused for being none. Of a longer
one only the rest modulo `2 ^ 64` milliseconds stays, which is not the length rounded down and may
be refused. Nothing else is changed. -/
theorem delays_round_down (proper : d.Proper) :
    let t := s.withDelay which d
    ((∀ other, other ≠ which → t.delayMillis other = s.delayMillis other) ∧
      t.poolSize = s.poolSize ∧ t.allowlist = s.allowlist ∧ t.skips = s.skips) ∧
    t.length which = .ofMillis (d.millis % 2 ^ 64) ∧
    (IsGreatest {e : Duration | e.Whole ∧ e ≤ d} (t.length which) ↔ d.millis < 2 ^ 64) ∧
    (∀ s' d', d ≤ d' → d'.millis < 2 ^ 64 → t.length which ≤ (withDelay s' which d').length which) ∧
    ∀ fault, which.fault? = some fault →
      (.ofMillis 1 ≤ d → d.millis < 2 ^ 64 → t.validate ≠ .error (.invalidSetup fault)) ∧
      (s.validate = .ok () →
        (t.validate = .error (.invalidSetup fault) ↔ 2 ^ 64 ∣ d.millis)) := by
  intro t
  have kept : t.length which = .ofMillis (d.millis % 2 ^ 64) := s.length_withDelay which d
  refine ⟨s.withDelay_other which d, kept, ?_, ?_, ?_⟩
  · rw [Duration.isGreatest_iff proper, kept]
    constructor
    · intro same
      have modulo := congrArg Duration.millis same
      rw [Duration.millis_ofMillis, Duration.millis_ofMillis] at modulo
      omega
    · intro fits
      rw [Nat.mod_eq_of_lt fits]
  · intro s' d' le fits
    have rounded := Duration.millis_le_millis proper le
    rw [kept, length_withDelay, Duration.ofMillis_le_ofMillis, Nat.mod_eq_of_lt fits]
    exact Nat.le_trans (Nat.mod_le ..) rounded
  · intro fault named
    refine ⟨fun some fits refused => ?_, refused_withDelay_iff named⟩
    have positive := (Duration.ofMillis_le_iff proper).mp some
    have zero := delayMillis_of_refused named refused
    rw [delayMillis_withDelay, delay_eq_zero_iff] at zero
    exact Nat.not_lt.mpr (Nat.le_of_dvd positive zero) fits

/-- A period of two seconds and a bit is cut to two seconds, and not above one of three seconds. -/
theorem delays_round_down_uneven :
    let d : Duration := ⟨2, 999999⟩
    let d' : Duration := ⟨3, 0⟩
    d.Proper ∧ d ≤ d' ∧
      (default.withPeriod d).length .period = ⟨2, 0⟩ ∧
      IsGreatest {e : Duration | e.Whole ∧ e ≤ d} ((default.withPeriod d).length .period) ∧
      (default.withPeriod d).length .period ≤ (default.withPeriod d').length .period ∧
      (default.withPeriod d).validate ≠ .error (.invalidSetup .zeroHeartbeatPeriod) := by
  intro d d'
  have proper : d.Proper := by decide
  obtain ⟨-, kept, greatest, order, refusals⟩ := delays_round_down default .period proper
  exact ⟨proper, by decide, kept.trans (by decide), greatest.mpr (by decide),
    order _ d' (by decide) (by decide), (refusals _ rfl).1 (by decide) (by decide)⟩

/-- A period of `2 ^ 64` milliseconds becomes none: it is refused as not positive, and is less than
that of a shorter length. -/
theorem long_period_refused :
    let d : Duration := ⟨18446744073709551, 616000000⟩
    d.Proper ∧ d.seconds < 2 ^ 64 ∧ .ofMillis 1 ≤ d ∧
      (default.withPeriod d).validate = .error (.invalidSetup .zeroHeartbeatPeriod) ∧
      ¬IsGreatest {e : Duration | e.Whole ∧ e ≤ d} ((default.withPeriod d).length .period) ∧
      ¬(default.withPeriod (.ofMillis 1)).length .period ≤ (default.withPeriod d).length .period := by
  intro d
  have proper : d.Proper := by decide
  refine ⟨proper, by decide, by decide, refused_iff.mpr (by decide), ?_, by decide⟩
  rw [Duration.isGreatest_iff proper]
  decide

end Settings

end HealthWatch
