import HealthWatch.Proofs.Derived.Begun

/-!
# Rounds in turn

A serial round does nothing but evaluate its active checks by name, each once. `run_in_turn`
compares it with someone who asks for them one at a time: the answers are the same and so is the
session that is left. Nothing is assumed of what checks share; evaluating one may change what the
next one does.
-/

namespace HealthWatch

/-- The checks finish in turn: evaluated one after another, each ends with a verdict. -/
def Session.FinishInTurn (s : Session) : List Probe → Prop
  | [] => True
  | p :: rest => ∃ t v, s.safeCheck p = some (t, .verdict v) ∧ t.FinishInTurn rest

/-- Checks that go through the protected evaluation and end in every world finish in turn. -/
theorem Session.finishInTurn_of_ends {probes : List Probe} (guarded : ∀ p ∈ probes, p.Guarded)
    (ends : ∀ p ∈ probes, ∀ w, (p.begin w).2 ≠ .never) (s : Session) : s.FinishInTurn probes := by
  induction probes generalizing s with
  | nil => trivial
  | cons p rest ih =>
    obtain ⟨ours, guarded⟩ := List.forall_mem_cons.mp guarded
    obtain ⟨end_, ends⟩ := List.forall_mem_cons.mp ends
    cases course : (p.begin s.world).2 with
    | never => exact absurd course (end_ s.world)
    | ends after effects outcome =>
      have ended := Session.safeCheck_of_ends course
      rw [ours outcome] at ended
      exact ⟨_, _, ended, ih guarded ends _⟩

namespace Roster

variable {r : Roster} {s t : Session} {checks : List (String × Probe)}

def singly (r : Roster) (names : List String) : List Move :=
  names.map fun name => .evaluate r (.runOne name)

theorem play?_singly_cons {name : String} {p : Probe} (found : r.get? name = some p) {v : Verdict}
    (ended : s.safeCheck p = some (t, .verdict v)) (names : List String) :
    s.play? (r.singly (name :: names)) =
      (t.play? (r.singly names)).map fun a => (a.1, .reply (.ok (.verdict v)) :: a.2) := by
  have answered : s.move? (.evaluate r (.runOne name)) = some (t, .reply (.ok (.verdict v))) := by
    simp only [Session.move?, evaluate?, runOne, found, ended, Option.map_some]
  rw [singly, List.map_cons, Session.play?, answered]
  rfl

/-- A round and single evaluations of its active checks go the same way. -/
theorem runFrom_in_turn {w : World} (listed : ∀ e ∈ checks, r.get? e.1 = some e.2)
    (off : s.world.off = w.off)
    (finish : s.FinishInTurn ((checks.filter (·.2.isActive w)).map (·.2))) (acc : Results) :
    ∃ (t : Session) (told : List (String × Verdict)),
      told.map (·.1) = (checks.filter (·.2.isActive w)).map (·.1) ∧
      runFrom s acc checks = some (t, .results (told.foldl (fun m e => m.insert e.1 e.2) acc)) ∧
      s.play? (r.singly (told.map (·.1))) =
        some (t, told.map fun e => .reply (.ok (.verdict e.2))) ∧
      t.world.off = w.off := by
  induction checks generalizing s acc with
  | nil => exact ⟨s, [], rfl, rfl, rfl, off⟩
  | cons e rest ih =>
    obtain ⟨found, listed⟩ := List.forall_mem_cons.mp listed
    have same := e.2.isActive_congr off
    rw [List.filter_cons] at finish ⊢
    by_cases active : e.2.isActive w = true
    · rw [if_pos active, List.map_cons] at finish
      obtain ⟨u, v, ended, finish⟩ := finish
      obtain ⟨t, told, names, round, single, unchanged⟩ :=
        ih listed ((off_safeCheck ended).trans off) finish (acc.insert e.1 v)
      refine ⟨t, (e.1, v) :: told, ?_, ?_, ?_, unchanged⟩
      · rw [if_pos active, List.map_cons, List.map_cons, names]
      · rw [runFrom, if_pos (same.trans active), ended]
        exact round
      · rw [List.map_cons, play?_singly_cons found ended, single]
        rfl
    · rw [if_neg active] at finish ⊢
      have inactive : ¬e.2.isActive s.world = true := fun active' => active (same.symm.trans active')
      rw [(runFrom_inactive inactive rest acc).1]
      exact ih listed off finish acc

/-- A round that gives results is one whose active checks finish in turn. -/
theorem finishInTurn_of_runFrom {w : World} (off : s.world.off = w.off) {acc results : Results}
    (round : runFrom s acc checks = some (t, .results results)) :
    s.FinishInTurn ((checks.filter (·.2.isActive w)).map (·.2)) := by
  induction checks generalizing s acc with
  | nil => trivial
  | cons e rest ih =>
    have same := e.2.isActive_congr off
    rw [List.filter_cons]
    by_cases active : e.2.isActive w = true
    · obtain ⟨u, v, ended, -, round⟩ := runFrom_active (same.trans active) round
      rw [if_pos active]
      exact ⟨u, v, ended, ih ((off_safeCheck ended).trans off) round⟩
    · have inactive : ¬e.2.isActive s.world = true := fun active' => active (same.symm.trans active')
      rw [if_neg active]
      exact ih off ((runFrom_inactive inactive rest acc).1 ▸ round)

/-- The names of the active checks, in the order of a round. -/
theorem mem_names_active {w : World} {name : String} :
    name ∈ (r.active w).map (·.1) ↔ ∃ p, r.get? name = some p ∧ p.isActive w = true := by
  simp only [active, get?, NameMap.find?_eq_some_iff, List.mem_map, List.mem_filter]
  constructor
  · rintro ⟨⟨_, p⟩, ⟨listed, active⟩, rfl⟩
    exact ⟨p, listed, active⟩
  · rintro ⟨p, listed, active⟩
    exact ⟨(name, p), ⟨listed, active⟩, rfl⟩

theorem run_of_finishInTurn (finish : s.FinishInTurn ((r.active s.world).map (·.2))) :
    ∃ t results, r.run s = some (t, .results results) ∧
      results.names = (r.active s.world).map (·.1) ∧
      s.play? (r.singly results.names) =
        some (t, results.values.map fun v => .reply (.ok (.verdict v))) ∧
      t.world.off = s.world.off := by
  have listed : ∀ e ∈ r.checks.entries, r.get? e.1 = some e.2 := fun e => NameMap.find?_of_mem
  obtain ⟨t, told, names, round, single, off⟩ := runFrom_in_turn listed rfl finish .empty
  have ascending : Ascending told := by
    have sorted := List.pairwise_map.mpr (r.ascending_active s.world)
    rw [active, ← names] at sorted
    exact List.pairwise_map.mp sorted
  have entries := NameMap.entries_ofList ascending
  refine ⟨t, .ofList told, round, ?_, ?_, off⟩
  · rw [NameMap.names, entries]
    exact names
  · rw [NameMap.names, NameMap.values, entries, List.map_map]
    exact single

/-- A serial round gives results exactly if its active checks finish in turn, and then does what
single evaluations of these checks by name do: the results are their answers, and the session that
is left is the same, with its time, the state of all checks and all that goes on. To evaluate one
check by name it need not be active, but it has to be registered. -/
theorem run_in_turn (r : Roster) (s : Session) :
    let names := (r.active s.world).map (·.1)
    (names.Pairwise (· < ·) ∧
      ∀ name, name ∈ names ↔ ∃ p, r.get? name = some p ∧ p.isActive s.world = true) ∧
    (s.FinishInTurn ((r.active s.world).map (·.2)) ↔
      ∃ t results, r.run s = some (t, .results results)) ∧
    (((∀ e ∈ r.active s.world, e.2.Guarded ∧ ∀ w, (e.2.begin w).2 ≠ .never)) →
      s.FinishInTurn ((r.active s.world).map (·.2))) ∧
    (∀ t results, r.run s = some (t, .results results) →
      results.names = names ∧
      s.play? (r.singly names) = some (t, results.values.map fun v => .reply (.ok (.verdict v))) ∧
      t.world.off = s.world.off) ∧
    (∀ name p after effects outcome, r.get? name = some p →
      (p.begin s.world).2 = .ends after effects outcome →
      ∃ t, r.runOne s name = some (t, .ok (p.reply outcome)) ∧ t.now = s.now + after ∧
        ∀ place, s.Spares place → t.world.read place = (p.settled s.world).read place) ∧
    ∀ name, r.get? name = none → r.runOne s name = some (s, .error (.unknownCheck name)) := by
  intro names
  refine ⟨⟨?ascending, fun name => mem_names_active⟩, ?exactly, fun ends => ?everywhere,
    fun t results round => ?same, ?single, fun name missing => ?unknown⟩
  case ascending => exact List.pairwise_map.mpr (r.ascending_active s.world)
  case exactly =>
    constructor
    · intro finish
      obtain ⟨t, results, round, -⟩ := run_of_finishInTurn finish
      exact ⟨t, results, round⟩
    · rintro ⟨t, results, round⟩
      exact finishInTurn_of_runFrom rfl round
  case everywhere =>
    refine Session.finishInTurn_of_ends (List.forall_mem_map.mpr fun e member => ?_)
      (List.forall_mem_map.mpr fun e member => ?_) s
    · exact (ends e member).1
    · exact (ends e member).2
  case same =>
    obtain ⟨t', results', round', named, single, off⟩ :=
      run_of_finishInTurn (finishInTurn_of_runFrom rfl round)
    obtain ⟨rfl, same⟩ := Prod.mk.inj (Option.some.inj (round.symm.trans round'))
    obtain rfl := RoundEnd.results.inj same
    rw [named] at single
    exact ⟨named, single, off⟩
  case single =>
    intro name p after effects outcome found course
    have ended := Session.safeCheck_of_ends course
    refine ⟨s.waited (p.begin s.world).1 after effects, ?_, by simp, fun place spares => ?_⟩
    · rw [runOne, found]
      exact congrArg (Option.map _) ended
    · exact (Session.safeCheck_spared spares ended).1
  case unknown => simp only [runOne, missing]

/-- A check that stands under two names and inside a skipping one, and one that does not take part.
-/
def entangled : Roster :=
  let counter := .leaf (.ofList "counter" [.finish 5 (.verdict (.ok "first")),
    .finish 7 (.verdict (.warning "second")), .finish 9 (.verdict (.critical "third"))] true)
  ⟨.ofList [("direct", counter), ("spared", .skip ⟨0, "spared"⟩ 1 counter), ("twin", counter),
    ("idle", .leaf (.ofList "idle" [.finish 3 (.verdict .healthy)] false))]⟩

def shown? (a : Session × RoundEnd) : Option (List (String × Verdict) × Nat) :=
  match a.2 with
  | .results results => some (results.entries, a.1.now)
  | .died _ => none

theorem run_of_shown {entries : List (String × Verdict)} {time : Nat}
    (shown : (r.run s).bind shown? = some (entries, time)) :
    ∃ t results, r.run s = some (t, .results results) ∧ results.entries = entries ∧ t.now = time := by
  obtain ⟨⟨t, ended⟩, round, told⟩ := Option.bind_eq_some_iff.mp shown
  cases ended with
  | died text => cases told
  | results results =>
    obtain ⟨rfl, rfl⟩ := Prod.mk.inj (Option.some.inj told)
    exact ⟨t, results, round, rfl, rfl⟩

/-- Each of the three evaluations advances the check, in the round as by name. -/
theorem run_in_turn_entangled :
    Session.fresh.FinishInTurn ((entangled.active .fresh).map (·.2)) ∧
    (∃ t results, entangled.run .fresh = some (t, .results results) ∧
      results.entries =
        [("direct", .ok "first"), ("spared", .warning "second"), ("twin", .critical "third")] ∧
      Session.fresh.play? (entangled.singly ["direct", "spared", "twin"]) =
        some (t, results.values.map fun v => .reply (.ok (.verdict v))) ∧
      t.now = 21) ∧
    (∃ t, entangled.runOne .fresh "idle" = some (t, .ok (.verdict .healthy)) ∧ t.now = 3) ∧
    entangled.runOne .fresh "nobody" = some (.fresh, .error (.unknownCheck "nobody")) := by
  obtain ⟨-, exactly, -, same, single, unknown⟩ := run_in_turn entangled .fresh
  obtain ⟨t, results, round, entries, time⟩ : ∃ t results,
      entangled.run .fresh = some (t, .results results) ∧ results.entries =
        [("direct", .ok "first"), ("spared", .warning "second"), ("twin", .critical "third")] ∧
      t.now = 21 := run_of_shown (by decide +kernel)
  obtain ⟨-, singly, -⟩ := same t results round
  obtain ⟨u, answered, later, -⟩ := single "idle" _ 3 _ (.verdict .healthy) rfl rfl
  exact ⟨exactly.mpr ⟨t, results, round⟩, ⟨t, results, round, entries, singly, time⟩,
    ⟨u, answered, later⟩, unknown _ (by decide)⟩

end Roster

end HealthWatch
