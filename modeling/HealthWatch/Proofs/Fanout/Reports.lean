import HealthWatch.Fanout
import HealthWatch.Proofs.Evaluation.Places

/-!
# What rounds report

A round adds reports to those of its session and leaves the earlier ones as they are. All that
checks and rounds report are warnings.
-/

namespace HealthWatch

namespace Session

/-- All that has been reported since is a warning. -/
def Warns (s t : Session) : Prop :=
  ∃ added, t.reports = s.reports ++ added ∧ ∀ e ∈ added, e.2.level = .warn

variable {s t u : Session}

theorem Warns.refl (s : Session) : s.Warns s :=
  ⟨[], (List.append_nil _).symm, nofun⟩

theorem Warns.trans (first : s.Warns t) (second : t.Warns u) : s.Warns u := by
  obtain ⟨added, same, warnings⟩ := first
  obtain ⟨more, same', warnings'⟩ := second
  refine ⟨added ++ more, by rw [same', same, List.append_assoc], fun e member => ?_⟩
  rcases List.mem_append.mp member with old | new
  · exact warnings e old
  · exact warnings' e new

theorem warns_conclude (s : Session) (time : Nat) (effects : List Effect) :
    s.Warns (s.conclude time effects) := by
  refine ⟨_, rfl, fun e member => ?_⟩
  obtain ⟨event, said, rfl⟩ := List.mem_map.mp member
  obtain ⟨effect, -, same⟩ := List.mem_filterMap.mp said
  cases effect with
  | overran limit =>
    obtain rfl := Option.some.inj same
    rfl
  | _ => cases same

theorem warns_launch (s : Session) (p : Probe) : s.Warns (s.launch p).1 := by
  rw [launch_eq]
  dsimp only
  split
  · exact Warns.refl s
  · exact warns_conclude { s with world := _ } s.now _
  · exact Warns.refl s

theorem warns_beginQueued (s : Session) : s.Warns s.beginQueued :=
  s.beginQueued_induction (motive := fun t => s.Warns t) (Warns.refl s)
    fun t warns p _ => warns.trans (t.warns_launch p)

theorem warns_runTo (s : Session) (time : Nat) : s.Warns (s.runTo time) := by
  have folded : ∀ (due : List Pending) (t : Session),
      t.Warns (due.foldl (fun t q => t.conclude q.due q.effects) t) := by
    intro due
    induction due with
    | nil => exact Warns.refl
    | cons q rest ih => exact fun t => (t.warns_conclude ..).trans (ih _)
  exact folded (s.dueBy time) s

theorem warns_launchAll (s : Session) (checks : List (String × Probe)) :
    s.Warns (s.launchAll checks).1 := by
  induction checks generalizing s with
  | nil => exact Warns.refl s
  | cons e rest ih => exact (s.warns_launch e.2).trans (ih _)

theorem warns_spawnAll (s : Session) (workers : Workers) (checks : List (String × Probe)) :
    s.Warns (s.spawnAll workers checks).1 := by
  unfold spawnAll
  split
  · exact s.warns_launchAll checks
  · exact Warns.refl s

theorem warns_cutAt (s : Session) (workers : Workers) (time : Nat) (jobs : List Job) :
    s.Warns (s.cutAt workers time jobs).1 := by
  unfold cutAt
  split <;> exact Warns.refl s

theorem Awaited.warns {name : String} {timeout : Nat} {a : Awaited} {e : Event}
    (said : a.event? name timeout = some e) : e.level = .warn := by
  cases a with
  | late =>
    obtain rfl := Option.some.inj said
    rfl
  | ended =>
    obtain ⟨problem, -, rfl⟩ := Option.map_eq_some_iff.mp said
    rfl

/-- New reports are put in order with those that came since, and all before stay where they are. -/
theorem warns_addReports (warns : s.Warns t) {added : List (Nat × Event)}
    (warnings : ∀ e ∈ added, e.2.level = .warn) : s.Warns (t.addReports s.reports.length added) := by
  obtain ⟨since, same, older⟩ := warns
  refine ⟨(since ++ added).mergeSort fun a b => a.1 ≤ b.1, ?_, fun e member => ?_⟩
  · unfold addReports
    rw [same, List.drop_left, List.take_left]
  · rcases List.mem_append.mp ((List.mergeSort_perm _ _).mem_iff.mp member) with old | new
    · exact older e old
    · exact warnings e new

theorem warns_awaitAll (warns : s.Warns t) (start timeout : Nat) (jobs : List Job) :
    s.Warns (t.awaitAll start timeout s.reports.length jobs).1 := by
  refine warns_addReports (warns.trans (t.warns_runTo _)) fun e member => ?_
  obtain ⟨known, -, said⟩ := List.mem_filterMap.mp member
  obtain ⟨event, told, rfl⟩ := Option.map_eq_some_iff.mp said
  exact Awaited.warns told

end Session

namespace Roster

variable (r : Roster) (s : Session) (workers : Workers) (timeout : Nat)

theorem warns_fanOut : s.Warns (r.fanOut s workers timeout).1 := by
  unfold fanOut
  dsimp only
  split
  · refine ⟨_, rfl, fun e member => ?_⟩
    obtain ⟨check, -, rfl⟩ := List.mem_map.mp member
    rfl
  · refine Session.warns_awaitAll (Session.Warns.trans ?_ (Session.warns_spawnAll ..)) ..
    split
    · exact Session.Warns.refl s
    · exact s.warns_beginQueued

theorem warns_fanOutCut (time : Nat) : s.Warns (r.fanOutCut s workers timeout time).1 :=
  Session.warns_awaitAll ((Session.warns_spawnAll ..).trans (Session.warns_cutAt ..)) ..

end Roster

end HealthWatch
