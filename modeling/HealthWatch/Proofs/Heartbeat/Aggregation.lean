import HealthWatch.Proofs.Heartbeat.History
import HealthWatch.Proofs.NameMap
import Mathlib.Order.Bounds.Defs

/-!
# One status for many verdicts

The status of many verdicts is their least upper bound in severity, so neither their order nor the
way they are gathered matters. The listener that keeps the latest results and the one that reports
them both give this status: the first for the last map it was told and for no other
(`latest_hear`), the second with one warning for each entry above `ok` (`reports_logging`).
-/

namespace HealthWatch

namespace Status

variable {a b : Status} {l l' : List Status}

theorem eq_of_same_bounds (same : ∀ c, a ≤ c ↔ b ≤ c) : a = b :=
  le_antisymm ((same b).mpr (le_refl b)) ((same a).mp (le_refl a))

theorem worst_append : worst (l ++ l') = worse (worst l) (worst l') := by
  refine eq_of_same_bounds fun c => ?_
  rw [worse_le_iff, worst_le_iff, worst_le_iff, worst_le_iff, List.forall_mem_append]

theorem worst_perm (perm : l.Perm l') : worst l = worst l' := by
  refine eq_of_same_bounds fun c => ?_
  simp only [worst_le_iff, perm.mem_iff]

theorem le_ok_iff : a ≤ ok ↔ a = ok :=
  ⟨fun below => le_antisymm below (ok_le a), fun same => same ▸ le_refl a⟩

theorem worst_eq_ok_iff : worst l = ok ↔ ∀ s ∈ l, s = ok := by
  simp only [← le_ok_iff, worst_le_iff]

end Status

theorem isLUB_worstStatus (vs : List Verdict) :
    IsLUB {s | ∃ v ∈ vs, v.status = s} (worstStatus vs) := by
  constructor
  · rintro s ⟨v, member, rfl⟩
    exact Status.le_worst (List.mem_map_of_mem member)
  · intro c bound
    refine Status.worst_le_iff.mpr fun s member => ?_
    obtain ⟨v, listed, rfl⟩ := List.mem_map.mp member
    exact bound ⟨v, listed, rfl⟩

/-! ### The latest results -/

/-- Results that a listener is told. Any listener may be told anything at any time. -/
structure Telling where
  listener : Listener
  beat : Nat
  results : Results

def Telling.kept? (t : Telling) : Option Results :=
  match t.listener with
  | .latest => some t.results
  | _ => none

def Telling.delivery (t : Telling) : Delivery :=
  ⟨t.listener.name, t.beat, t.results⟩

namespace Desk

/-- What is on the desk when one thing after another has been told. -/
def hear (d : Desk) (told : List Telling) : Desk :=
  told.foldl (fun d t => d.notify t.beat t.results t.listener) d

theorem hear_append (d : Desk) (told later : List Telling) :
    d.hear (told ++ later) = (d.hear told).hear later :=
  List.foldl_append

theorem latest_notify (d : Desk) (t : Telling) :
    (d.notify t.beat t.results t.listener).latest = t.kept?.or d.latest := by
  obtain ⟨listener, beat, results⟩ := t
  cases listener <;> rfl

theorem latest_hear (d : Desk) (told : List Telling) :
    (d.hear told).latest = (told.filterMap Telling.kept?).getLast?.or d.latest := by
  induction told generalizing d with
  | nil => rfl
  | cons t rest ih =>
    refine (ih (d.notify t.beat t.results t.listener)).trans ?_
    rw [latest_notify]
    cases kept : t.kept? with
    | none => rw [List.filterMap_cons_none kept, Option.none_or]
    | some results =>
      rw [List.filterMap_cons_some kept, List.getLast?_cons, Option.some_or]
      cases (rest.filterMap Telling.kept?).getLast? <;> rfl

/-- The desk shows the last of the maps that were kept one after another, and none before the
first. -/
structure ShowsLast (d : Desk) (kept : List Results) : Prop where
  first : kept = [] → d.latest = none ∧ d.status = .unknown ∧ ∀ name, d.get? name = none
  last : ∀ earlier results, kept = earlier ++ [results] →
    d.latest = some results ∧ d.status = worstStatus results.values ∧
      ∀ name, d.get? name = results.find? name

theorem showsLast_of_latest {d : Desk} {kept : List Results} (latest : d.latest = kept.getLast?) :
    d.ShowsLast kept := by
  constructor
  · rintro rfl
    rw [List.getLast?_nil] at latest
    exact ⟨latest, by rw [status, latest], fun name => by rw [get?, latest]; rfl⟩
  · rintro earlier results rfl
    rw [List.getLast?_concat] at latest
    exact ⟨latest, by rw [status, latest], fun name => by rw [get?, latest]; rfl⟩

theorem showsLast_hear (told : List Telling) :
    (empty.hear told).ShowsLast (told.filterMap Telling.kept?) :=
  showsLast_of_latest ((latest_hear empty told).trans Option.or_none)

end Desk

namespace Lifecycle

theorem desk_step {l l' : Lifecycle} {step : Step} (taken : l.step? step = some l') :
    ∃ told, l'.desk = l.desk.hear told ∧
      l'.desk.deliveries = l.desk.deliveries ++ told.map Telling.delivery := by
  have silent : l'.desk = l.desk → ∃ told, l'.desk = l.desk.hear told ∧
      l'.desk.deliveries = l.desk.deliveries ++ told.map Telling.delivery :=
    fun same => ⟨[], same, by rw [same]; exact (List.append_nil _).symm⟩
  cases step with
  | start =>
    obtain ⟨-, rfl⟩ := start_some taken
    exact silent rfl
  | stop =>
    obtain rfl : l.stop = l' := Option.some.inj taken
    exact silent rfl
  | wake i active =>
    obtain ⟨stopped, -, rfl⟩ := wake?_some taken
    exact silent rfl
  | quit i =>
    obtain ⟨-, rfl⟩ := quit?_some taken
    exact silent rfl
  | collect i results =>
    obtain ⟨stopped, -, rfl⟩ := collect?_some taken
    exact silent rfl
  | deliver i =>
    obtain ⟨stopped, beat, results, next, left, -, rfl⟩ := deliver?_some taken
    exact ⟨[⟨next, beat, results⟩], rfl, rfl⟩
  | finish i =>
    obtain ⟨stopped, beat, results, -, rfl⟩ := finish?_some taken
    exact silent rfl

theorem desk_play (l : Lifecycle) (steps : List Step) :
    ∃ told, (l.play steps).desk = l.desk.hear told ∧
      (l.play steps).desk.deliveries = l.desk.deliveries ++ told.map Telling.delivery := by
  induction steps generalizing l with
  | nil => exact ⟨[], rfl, (List.append_nil _).symm⟩
  | cons step rest ih =>
    rw [play, attempt]
    cases taken : l.step? step with
    | none => exact ih l
    | some l' =>
      obtain ⟨told, heard, delivered⟩ := desk_step taken
      obtain ⟨later, heard', delivered'⟩ := ih l'
      refine ⟨told ++ later, ?_, ?_⟩
      · rw [Option.getD_some, heard', heard, Desk.hear_append]
      · rw [Option.getD_some, delivered', delivered, List.append_assoc, List.map_append]

/-- Through all starts, stops and beats, the desk of a heartbeat shows the last map of those that
were delivered to the listener that keeps the latest results. -/
theorem showsLast_play (listeners : List Listener) (steps : List Step) :
    let d := ((idle listeners).play steps).desk
    ∃ told : List Telling, d.deliveries = told.map Telling.delivery ∧
      d.ShowsLast (told.filterMap Telling.kept?) := by
  obtain ⟨told, heard, delivered⟩ := desk_play (idle listeners) steps
  exact ⟨told, delivered, heard ▸ Desk.showsLast_hear told⟩

end Lifecycle

/-! ### The report -/

open Numeral (natural)

def Event.line (e : Event) : Level × String × List (String × String) :=
  (e.level, e.text, e.fields)

def summaryLine (results : Results) : Level × String × List (String × String) :=
  (.info, "Heartbeat",
    [("status", (worstStatus results.values).name), ("checks", natural results.size)])

def warningLine (e : String × Verdict) : Level × String × List (String × String) :=
  (.warn, "Health check not OK",
    [("check", e.1), ("status", e.2.status.name), ("code", natural e.2.status.code),
      ("message", e.2.message?.getD "")])

/-- The entries with a status above `ok`, by name. -/
structure Flagged (results : Results) (flagged : List (String × Verdict)) : Prop where
  ascending : Ascending flagged
  mem_iff : ∀ name v, (name, v) ∈ flagged ↔ results.find? name = some v ∧ v.status ≠ .ok

variable {results : Results} {flagged : List (String × Verdict)}

theorem flagged_unhealthy (results : Results) :
    Flagged results (results.entries.filter fun e => !e.2.isHealthy) where
  ascending := results.ascending.filter _
  mem_iff name v := by
    rw [List.mem_filter, NameMap.find?_eq_some_iff]
    simp [Verdict.isHealthy, Status.isOk]

theorem Flagged.nil_iff (all : Flagged results flagged) :
    flagged = [] ↔ worstStatus results.values = .ok := by
  rw [worstStatus, Status.worst_eq_ok_iff, List.eq_nil_iff_forall_not_mem]
  constructor
  · intro none s member
    obtain ⟨v, listed, rfl⟩ := List.mem_map.mp member
    obtain ⟨⟨name, v⟩, entry, rfl⟩ := List.mem_map.mp listed
    refine Decidable.byContradiction fun bad => none (name, v) ?_
    exact (all.mem_iff name v).mpr ⟨NameMap.find?_of_mem entry, bad⟩
  · rintro healthy ⟨name, v⟩ member
    obtain ⟨found, bad⟩ := (all.mem_iff name v).mp member
    have listed : v ∈ results.values := List.mem_map_of_mem (NameMap.mem_of_find? found)
    exact bad (healthy v.status (List.mem_map_of_mem listed))

theorem lines_beatReport (results : Results) :
    (beatReport results).map Event.line =
      summaryLine results :: (results.entries.filter fun e => !e.2.isHealthy).map warningLine := by
  rw [beatReport, List.map_cons, List.map_map]
  rfl

/-- A report warns exactly if there is a line for some entry. -/
theorem quiet_iff {events : List Event}
    (lines : events.map Event.line = summaryLine results :: flagged.map warningLine) :
    (∀ e ∈ events, e.level ≠ .warn) ↔ flagged = [] := by
  have levels : events.map Event.level = .info :: flagged.map fun _ => .warn := by
    have firsts := congrArg (List.map Prod.fst) lines
    rwa [List.map_map, List.map_cons, List.map_map] at firsts
  rw [← List.forall_mem_map (P := (· ≠ Level.warn)), levels]
  cases flagged <;> simp

theorem reports_logging (d : Desk) (beat : Nat) (results : Results) :
    (d.notify beat results .logging).reports = d.reports ++ beatReport results := by
  rw [Desk.notify]
  exact List.append_nil _

/-- The aggregate of verdicts is the same everywhere, whatever has been told to whom:

* It is the least status that is at least as severe as each verdict, `ok` if there is none. A
  permutation leaves it as it is, and that of two lists is the worse of theirs.
* The latest results are unknown before the first map. Then they are those of the last map told, of
  which alone there are status and entries.
* The report succeeds. It is one line with the aggregate and the number of entries, and one warning
  for each entry that is not `ok`, by name. So there is no warning exactly if the aggregate is
  `ok`. -/
theorem aggregate_everywhere (vs vs' : List Verdict) (told : List Telling) (d : Desk) (beat : Nat)
    (results : Results) :
    (IsLUB {s | ∃ v ∈ vs, v.status = s} (worstStatus vs) ∧ worstStatus [] = .ok ∧
      (vs.Perm vs' → worstStatus vs = worstStatus vs') ∧
      worstStatus (vs ++ vs') = (worstStatus vs).worse (worstStatus vs')) ∧
    (Desk.empty.hear told).ShowsLast (told.filterMap Telling.kept?) ∧
    Listener.logging.response beat results = .done ∧
    ∃ flagged added, Flagged results flagged ∧
      (d.notify beat results .logging).reports = d.reports ++ added ∧
      added.map Event.line = summaryLine results :: flagged.map warningLine ∧
      ((∀ e ∈ added, e.level ≠ .warn) ↔ worstStatus results.values = .ok) := by
  refine ⟨⟨isLUB_worstStatus vs, rfl, fun perm => ?_, ?_⟩, Desk.showsLast_hear told, rfl, ?_⟩
  · exact Status.worst_perm (perm.map Verdict.status)
  · exact (congrArg Status.worst List.map_append).trans Status.worst_append
  · have all := flagged_unhealthy results
    have lines := lines_beatReport results
    exact ⟨_, _, all, reports_logging d beat results, lines, (quiet_iff lines).trans all.nil_iff⟩

/-- A map without entries comes after one with a critical entry: the latest results are `ok` again,
and the entry is gone. The report on the critical map has warned. -/
theorem aggregate_everywhere_recovered :
    let down : Results := .ofList [("queue", .unknown "?"), ("db", .failed ⟨"refused", ["query"]⟩),
      ("disk", .warning "full"), ("api", .healthy)]
    let d := Desk.empty.hear [⟨.latest, 1, down⟩, ⟨.logging, 1, down⟩, ⟨.latest, 2, .empty⟩]
    d.status = .ok ∧ d.get? "db" = none ∧ down.values.Perm down.values.reverse ∧
      worstStatus down.values.reverse = .critical ∧
      ∃ e ∈ (Desk.empty.notify 1 down .logging).reports, e.level = .warn := by
  intro down d
  have perm : down.values.Perm down.values.reverse := (List.reverse_perm _).symm
  obtain ⟨⟨-, -, reordered, -⟩, shows, -, flagged, added, -, reported, -, quiet⟩ :=
    aggregate_everywhere down.values down.values.reverse
      [⟨.latest, 1, down⟩, ⟨.logging, 1, down⟩, ⟨.latest, 2, .empty⟩] .empty 1 down
  obtain ⟨-, status, entries⟩ := shows.last [down] .empty rfl
  have critical : worstStatus down.values = .critical := rfl
  have warned : ¬∀ e ∈ added, e.level ≠ .warn := by
    rw [quiet, critical]
    decide
  rw [show added = (Desk.empty.notify 1 down .logging).reports from reported.symm] at warned
  refine ⟨status, entries "db", perm, (reordered perm).symm, ?_⟩
  simpa using warned

end HealthWatch
