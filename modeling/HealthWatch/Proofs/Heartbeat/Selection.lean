import HealthWatch.Heartbeat.Basic
import HealthWatch.Proofs.Derived.Phase
import HealthWatch.Proofs.Derived.Restriction

/-!
# The checks of a heartbeat

The settings name checks in two places: the allowlist selects them, the skip counts wrap them.
`create_selects` says which checks a heartbeat then has, and that every name of the settings either
belongs to one of them or is reported.
-/

namespace HealthWatch

/-- The allowlist, if there is one, has the name. -/
def Settings.selects (s : Settings) (name : String) : Bool :=
  match s.allowlist with
  | some names => names.contains name
  | none => true

theorem Settings.selects_of_listed {s : Settings} {name : String}
    (listed : name ∈ s.allowlist.getD []) : s.selects name = true := by
  rw [selects]
  cases allowed : s.allowlist with
  | none => rfl
  | some names =>
    rw [allowed] at listed
    exact List.contains_iff_mem.mpr listed

namespace Heartbeat

variable {source r : Roster} {settings : Settings} {name : String} {names : List String}

theorem unregistered_eq (r : Roster) (names : List String) :
    unregistered r names = names.filter fun name => decide (name ∉ r.names) := by
  refine List.filter_congr fun name _ => ?_
  rw [Roster.names, decide_not, ← Bool.decide_coe (r.checks.contains name)]
  simp only [NameMap.contains_iff]

theorem selected_eq (source : Roster) (settings : Settings) :
    selected source settings = source.filtered settings.selects := by
  have chosen : settings.selects = fun name => settings.selects name := rfl
  rw [selected, chosen]
  cases allowed : settings.allowlist with
  | some names => simp only [Settings.selects, allowed, Roster.only]
  | none =>
    simp only [Settings.selects, allowed]
    exact congrArg Roster.mk (NameMap.ext (List.filter_true _).symm)

/-- The checks that the settings leave: the selected ones, with their skip counts. -/
def effective (source : Roster) (settings : Settings) (series : Nat) : Roster :=
  (selected source settings).withSkips series settings.skips

theorem names_effective (source : Roster) (settings : Settings) (series : Nat) :
    (effective source settings series).names = source.names.filter settings.selects := by
  rw [effective, selected_eq, ← source.names_filtered]
  exact (source.filtered settings.selects).checks.names_map _

theorem create_eq (source : Roster) (settings : Settings) (series : Nat)
    (listeners : List Listener) (session : Session) :
    create source settings series listeners session = settings.validate.map fun _ =>
      (⟨settings, effective source settings series, .idle listeners,
        ⟨settings.poolSize.toNat, .down⟩, session⟩, settingsReport source settings) := by
  rw [create]
  cases settings.validate <;> rfl

theorem create_ok {series : Nat} {listeners : List Listener} {session : Session} {h : Heartbeat}
    {reports : List Event}
    (created : create source settings series listeners session = .ok (h, reports)) :
    settings.validate = .ok () ∧ h = ⟨settings, effective source settings series, .idle listeners,
      ⟨settings.poolSize.toNat, .down⟩, session⟩ ∧ reports = settingsReport source settings := by
  rw [create_eq] at created
  cases valid : settings.validate with
  | error fault =>
    rw [valid] at created
    cases created
  | ok =>
    rw [valid] at created
    cases created
    exact ⟨rfl, rfl, rfl⟩

/-- A selected check is wrapped if it has a positive skip count. -/
theorem get?_effective {p : Probe} (present : source.get? name = some p)
    (chosen : settings.selects name = true) (series : Nat) :
    (∀ count, settings.skips.find? name = some count → 0 < count →
      (effective source settings series).get? name = some (.skip ⟨series, name⟩ count.toNat p)) ∧
    ((∀ count, settings.skips.find? name = some count → count = 0) →
      (effective source settings series).get? name = some p) := by
  have inside : (selected source settings).get? name = some p := by
    rw [selected_eq, source.get?_filtered, if_pos chosen, present]
  constructor
  · intro count counted positive
    exact Roster.get?_withSkips_counted inside counted positive
  · intro zero
    exact (Roster.get?_withSkips_other zero).trans inside

theorem settingsReport_eq (source : Roster) (settings : Settings) :
    settingsReport source settings =
      ((settings.allowlist.getD []).filter fun name => decide (name ∉ source.names)).map
          .unregistered ++
        (settings.skips.names.filter fun name =>
          decide (name ∉ source.names.filter settings.selects)).map .idleSkip := by
  rw [settingsReport, unregistered_eq, unregistered_eq, selected_eq, source.names_filtered]

/-- A heartbeat is refused for the fault of its settings only. Otherwise it has the checks that the
allowlist selects, by name, those with a positive skip count wrapped and all others as they are.
Each name of the settings that belongs to none of them is reported, first those of the allowlist,
then those with a skip count. -/
theorem create_selects (source : Roster) (settings : Settings) (series : Nat)
    (listeners : List Listener) (session : Session) :
    (∀ fault, create source settings series listeners session = .error fault ↔
      settings.validate = .error fault) ∧
    ∀ h reports, create source settings series listeners session = .ok (h, reports) →
      (h.settings = settings ∧ h.life = .idle listeners ∧ h.session = session) ∧
      h.roster.names = source.names.filter settings.selects ∧
      (∀ name p, source.get? name = some p → settings.selects name = true →
        (∀ count, settings.skips.find? name = some count → 0 < count →
          ∃ q, Probe.everyNth ⟨series, name⟩ (count.toNat + 1) p = .ok q ∧
            h.roster.get? name = some q) ∧
        ((∀ count, settings.skips.find? name = some count → count = 0) →
          h.roster.get? name = some p)) ∧
      reports =
        ((settings.allowlist.getD []).filter fun name => decide (name ∉ source.names)).map
            .unregistered ++
          (settings.skips.names.filter fun name => decide (name ∉ h.roster.names)).map .idleSkip ∧
      settings.skips.names.Pairwise (· < ·) ∧
      (∀ e ∈ reports, e.level = .warn) ∧
      (∀ name ∈ settings.allowlist.getD [],
        name ∈ h.roster.names ↔ .unregistered name ∉ reports) ∧
      ∀ name ∈ settings.skips.names, name ∈ h.roster.names ↔ .idleSkip name ∉ reports := by
  constructor
  · intro fault
    rw [create_eq]
    cases settings.validate <;> simp [Except.map]
  · intro h reports created
    obtain ⟨-, rfl, rfl⟩ := create_ok created
    have names := names_effective source settings series
    dsimp only
    rw [settingsReport_eq, names]
    refine ⟨⟨rfl, rfl, rfl⟩, rfl, ?_, rfl, settings.skips.ascending_names, ?_, ?_, ?_⟩
    · intro name p present chosen
      obtain ⟨counted, other⟩ := get?_effective present chosen series
      exact ⟨fun count found positive => ⟨_, rfl, counted count found positive⟩, other⟩
    · intro e member
      rcases List.mem_append.mp member with first | second
      · obtain ⟨name, -, rfl⟩ := List.mem_map.mp first
        rfl
      · obtain ⟨name, -, rfl⟩ := List.mem_map.mp second
        rfl
    · intro name listed
      have chosen := Settings.selects_of_listed listed
      simp [listed, chosen]
    · intro name counted
      simp [counted]

/-- An allowlist with a repeated stranger, and skip counts for a stranger, for a check that is not
selected and for two that are. -/
def overlapping : Settings :=
  { Settings.default with
    allowlist := some ["db", "nobody", "log", "nobody"]
    skips := .ofList [("web", 2), ("log", 0), ("nobody", 1), ("db", 3)] }

def watched : Roster :=
  ⟨.ofList [("db", .leaf ⟨"db", fun _ => .hang, true⟩), ("log", .leaf ⟨"log", fun _ => .hang, true⟩),
    ("web", .leaf ⟨"web", fun _ => .hang, true⟩)]⟩

theorem create_selects_overlapping :
    ∃ h reports, create watched overlapping 7 [] .fresh = .ok (h, reports) ∧
      h.roster.names = ["db", "log"] ∧
      reports = [.unregistered "nobody", .unregistered "nobody", .idleSkip "nobody",
        .idleSkip "web"] := by
  obtain ⟨-, made⟩ := create_selects watched overlapping 7 [] .fresh
  obtain ⟨-, names, -, reports, -⟩ := made _ _ rfl
  have chosen : watched.names.filter overlapping.selects = ["db", "log"] := by decide +kernel
  rw [names, chosen] at reports
  exact ⟨_, _, rfl, names.trans chosen, reports.trans (by decide +kernel)⟩

end Heartbeat

end HealthWatch
