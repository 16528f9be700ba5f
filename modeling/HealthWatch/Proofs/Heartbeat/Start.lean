import HealthWatch.Heartbeat.Basic

/-!
# Starting and stopping heartbeats

With valid settings nothing but a running loop keeps a heartbeat from starting.
-/

namespace HealthWatch

theorem Settings.positive_of_valid {s : Settings} (valid : s.validate = .ok ()) :
    0 < s.period.toNat ∧ 0 < s.timeout.toNat ∧ 0 < s.poolSize.toNat := by
  have positive : ∀ n : UInt64, n ≠ 0 → 0 < n.toNat := by
    intro n nonzero
    exact Nat.pos_of_ne_zero fun zero => nonzero (UInt64.toNat_inj.mp zero)
  have clear : s.problem? = none := by
    rw [validate] at valid
    cases problem : s.problem? with
    | none => rfl
    | some fault =>
      rw [problem] at valid
      cases valid
  rw [problem?] at clear
  split at clear
  · cases clear
  · split at clear
    · cases clear
    · split at clear
      · cases clear
      · rename_i period timeout poolSize
        exact ⟨positive _ period, positive _ timeout, positive _ poolSize⟩

namespace Heartbeat

variable {hb : Heartbeat}

theorem start_running (running : hb.life.running = true) : hb.start = .error .alreadyRunning := by
  rw [start, Lifecycle.start, if_pos running]
  rfl

theorem idle_of_start {hb' : Heartbeat} (started : hb.start = .ok hb') :
    hb.life.running = false := by
  cases running : hb.life.running with
  | false => rfl
  | true =>
    rw [start_running running] at started
    cases started

/-- A heartbeat that does not run starts a new run and a pool of its own. -/
theorem start_idle (idle : hb.life.running = false) (valid : hb.settings.validate = .ok ()) :
    hb.start = .ok { hb with
      life := { hb.life with running := true, runs := hb.life.runs ++ [⟨false, .waiting⟩] }
      workers := ⟨hb.settings.poolSize.toNat, .running⟩ } := by
  have size := (Settings.positive_of_valid valid).2.2
  have stopped : ¬hb.life.running = true := by simp [idle]
  rw [start, Lifecycle.start, if_neg stopped, Workers.start, if_neg (Nat.ne_of_gt size)]
  rfl

theorem stop_idle (idle : hb.life.running = false) : hb.stop = hb := by
  rw [stop, isRunning, idle]
  rfl

theorem stop_running (running : hb.life.running = true) : hb.stop.life = hb.life.stop := by
  rw [stop, isRunning, running]
  rfl

theorem stop_stop (hb : Heartbeat) : hb.stop.stop = hb.stop := by
  apply stop_idle
  cases running : hb.life.running with
  | true => rw [stop_running running]; rfl
  | false => rw [stop_idle running, running]

end Heartbeat

end HealthWatch
