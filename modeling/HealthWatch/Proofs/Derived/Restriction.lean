import HealthWatch.Proofs.Derived.Renaming
import HealthWatch.Proofs.Fanout.Serial

/-!
# Derived rosters are restrictions

A filtered roster holds some of the checks of its source, and a round of it is what a round of the
source says of them (`run_filtered`): as long as no call is outstanding, a check does not notice
whether others are evaluated before it. `filtered_overtaken` shows what an outstanding call can
change. To skip and to filter commute over every history (`play?_withSkips_filtered`), since the
cells of the skipping checks are all that differs.
-/

namespace HealthWatch

open World (Agree)

/-- A step of a history around a roster: the roster itself is asked, or something else happens. -/
inductive Turn where
  | own (e : Evaluation)
  | elsewhere (m : Move)

namespace Turn

def move (r : Roster) : Turn → Move
  | own e => .evaluate r e
  | elsewhere m => m

/-- Whatever happens elsewhere, no check with a cell of the series is involved. -/
def Avoids (series : Nat) : Turn → Prop
  | own _ => True
  | elsewhere m => ∀ p ∈ m.checks, p.Avoids series

end Turn

/-- What shows of a session: the time, the calls of all leaves, which of them are switched off, and
the reports. -/
def Session.shown (s : Session) : Nat × (String → Tally) × (String → Bool) × List (Nat × Event) :=
  (s.now, s.world.tally, s.world.off, s.reports)

namespace Roster

variable {r : Roster} {s : Session} {p q : String → Bool}

/-! ### Names -/

theorem names_filtered (r : Roster) (p : String → Bool) :
    (r.filtered p).names = r.names.filter p :=
  r.checks.names_filter p

theorem get?_filtered (r : Roster) (p : String → Bool) (name : String) :
    (r.filtered p).get? name = if p name then r.get? name else none :=
  r.checks.find?_filter p name

theorem mem_filtered {e : String × Probe} :
    e ∈ (r.filtered p).checks.entries ↔ e ∈ r.checks.entries ∧ p e.1 = true :=
  List.mem_filter

theorem filtered_filtered (r : Roster) (p q : String → Bool) :
    (r.filtered p).filtered q = r.filtered fun name => p name && q name := by
  refine congrArg Roster.mk (NameMap.ext ?_)
  simp only [filtered, NameMap.filter, List.filter_filter]
  exact List.filter_congr fun e _ => Bool.and_comm ..

theorem filtered_congr (same : ∀ name ∈ r.names, p name = q name) :
    r.filtered p = r.filtered q := by
  refine congrArg Roster.mk (NameMap.ext (List.filter_congr fun e member => ?_))
  exact same e.1 (List.mem_map_of_mem member)

/-- Order, duplicates and names of no check make no difference. -/
theorem only_congr {names others : List String}
    (same : ∀ name ∈ r.names, name ∈ names ↔ name ∈ others) : r.only names = r.only others := by
  refine filtered_congr fun name member => ?_
  exact Bool.eq_iff_iff.mpr (by simpa using same name member)

theorem active_filtered (r : Roster) (p : String → Bool) (w : World) :
    (r.filtered p).active w = (r.active w).filter fun e => p e.1 := by
  simp only [active, filtered, NameMap.filter, List.filter_filter]
  exact List.filter_congr fun e _ => Bool.and_comm ..

/-! ### Rounds -/

theorem Separate.filtered (separate : r.Separate) (p : String → Bool) :
    (r.filtered p).Separate :=
  List.Pairwise.filter _ separate

theorem guarded_of_verdict {c : Probe} {t : Session} {v : Verdict}
    (ended : s.safeCheck c = some (t, .verdict v)) :
    c.Guarded ∧ (c.begin s.world).2 ≠ .never := by
  obtain ⟨after, effects, outcome, course, reply⟩ := Session.course_of_safeCheck ended
  refine ⟨c.guarded_or_dies.resolve_right ?_, by simp [course]⟩
  rintro ⟨text, dies⟩
  cases (dies outcome).symm.trans reply

/-- A round of the checks that are chosen says of them what a round of all checks says, and leaves
the others alone. -/
theorem run_filtered (separate : r.Separate)
    (finish : ∀ e ∈ r.checks.entries, ∃ t v, s.safeCheck e.2 = some (t, .verdict v))
    (idle : r.Idle s) (p : String → Bool) :
    ∃ whole part all chosen,
      r.run s = some (whole, .results all) ∧
      (r.filtered p).run s = some (part, .results chosen) ∧
      chosen.entries = all.entries.filter (fun e => p e.1) ∧
      (∀ e ∈ r.checks.entries, p e.1 = true → Agree e.2.places part.world whole.world) ∧
      ∀ e ∈ r.checks.entries, p e.1 = false → ∀ place ∈ e.2.places,
        part.world.read place = s.world.read place ∧ part.Spares place := by
  have guarded : ∀ e ∈ r.checks.entries, e.2.Guarded := by
    intro e member
    obtain ⟨t, v, ended⟩ := finish e member
    exact (guarded_of_verdict ended).1
  have ends : ∀ e ∈ r.checks.entries, e.2.isActive s.world = true →
      (e.2.begin s.world).2 ≠ .never := by
    intro e member _
    obtain ⟨t, v, ended⟩ := finish e member
    exact (guarded_of_verdict ended).2
  have inside : ∀ e ∈ (r.filtered p).checks.entries, e ∈ r.checks.entries :=
    fun e member => (mem_filtered.mp member).1
  obtain ⟨whole, round, left, -⟩ := runFrom_evaluated separate guarded ends .empty rfl
    (fun _ _ _ _ => rfl) idle
  obtain ⟨part, round', left', frame⟩ := runFrom_evaluated (separate.filtered p)
    (fun e member => guarded e (inside e member)) (fun e member => ends e (inside e member)) .empty
    rfl (fun _ _ _ _ => rfl) fun e member => idle e (inside e member)
  refine ⟨whole, part, _, _, round, round', ?_, ?_, ?_⟩
  · have all := NameMap.entries_collected (r.ascending_active s.world)
      fun e => (e.2.begin s.world).2.verdict
    have chosen := NameMap.entries_collected ((r.filtered p).ascending_active s.world)
      fun e => (e.2.begin s.world).2.verdict
    refine chosen.trans (Eq.trans ?_ (congrArg (List.filter fun e => p e.1) all).symm)
    rw [active_filtered, List.filter_map]
    rfl
  · exact fun e member taken => left'.agree
      ⟨left.off, fun f here => left.active f (inside f here),
        fun f here => left.inactive f (inside f here), fun f here => left.spares f (inside f here)⟩
      (mem_filtered.mpr ⟨member, taken⟩)
  · intro e member out place own
    obtain ⟨spared, read⟩ := frame place (idle e member place own)
    refine ⟨read fun f chosen theirs => ?_, spared⟩
    obtain ⟨present, taken⟩ := mem_filtered.mp chosen
    have different : e ≠ f := by
      rintro rfl
      simp [taken] at out
    exact separate.apart member present different place own theirs

/-! ### Skipping checks -/

variable {one two : Nat}

theorem withSkips_filtered_rename (skips : NameMap UInt32) (p : String → Bool)
    (avoids : ∀ e ∈ r.checks.entries, e.2.Avoids one ∧ e.2.Avoids two) :
    ((r.withSkips one skips).filtered p).rename (.series one two) =
      (r.filtered p).withSkips two skips := by
  refine congrArg Roster.mk (NameMap.ext ?_)
  simp only [filtered, withSkips, NameMap.filter, NameMap.map, List.filter_map, List.map_map,
    Function.comp_def]
  refine List.map_congr_left fun e member => ?_
  obtain ⟨first, second⟩ := avoids e (List.mem_filter.mp member).1
  have kept := Probe.rename_series first second
  have moved : (Renaming.series one two).swap ⟨one, e.1⟩ = ⟨two, e.1⟩ := by
    simp [Renaming.series]
  cases skips.find? e.1 with
  | none => simp only [kept]
  | some count =>
    by_cases positive : 0 < count
    · simp only [positive, if_true, Probe.rename, moved, kept]
    · simp only [positive, if_false, kept]

theorem Turn.rename_move {turn : Turn} (first : turn.Avoids one) (second : turn.Avoids two) :
    (turn.move r).rename (.series one two) = turn.move (r.rename (.series one two)) := by
  cases turn with
  | own e => rfl
  | elsewhere m => exact Move.rename_series first second

/-- Whether the checks are chosen before or after some of them are made skipping ones shows in no
history. -/
theorem play?_withSkips_filtered (skips : NameMap UInt32) (p : String → Bool)
    (avoids : ∀ e ∈ r.checks.entries, e.2.Avoids one ∧ e.2.Avoids two)
    (first : s.Unused one) (second : s.Unused two) {turns : List Turn}
    (apart : ∀ turn ∈ turns, turn.Avoids one ∧ turn.Avoids two) :
    (s.play? (turns.map (Turn.move ((r.withSkips one skips).filtered p)))).map
        (fun a => (a.1.shown, a.2)) =
      (s.play? (turns.map (Turn.move ((r.filtered p).withSkips two skips)))).map
        (fun a => (a.1.shown, a.2)) := by
  have played := Session.play?_rename (.series one two) s
    (turns.map (Turn.move ((r.withSkips one skips).filtered p)))
  have moves : (turns.map (Turn.move ((r.withSkips one skips).filtered p))).map
      (Move.rename (.series one two)) =
      turns.map (Turn.move ((r.filtered p).withSkips two skips)) := by
    rw [List.map_map, ← withSkips_filtered_rename skips p avoids]
    refine List.map_congr_left fun turn member => ?_
    exact Turn.rename_move (apart turn member).1 (apart turn member).2
  rw [Session.rename_series first second, moves] at played
  rw [played, Option.map_map]
  rfl

/-! ### All of it -/

/-- Derived rosters are restrictions of their source:

* a filtered roster has the chosen names in order, each with the very same check;
* a round of it, when checks share no state, all give a verdict and none has a call outstanding,
  says and does what a round of the source says and does about the chosen checks, and nothing about
  the others;
* to filter twice is to filter by both conditions, and a list of names chooses its members;
* to make checks skipping ones and to filter commute: over every history both orders give the same
  answers and the same calls. -/
theorem derived_restrict (r : Roster) (s : Session) (p q : String → Bool) :
    ((r.filtered p).names = r.names.filter p ∧
      ∀ name, (r.filtered p).get? name = if p name then r.get? name else none) ∧
    (r.Separate → (∀ e ∈ r.checks.entries, ∃ t v, s.safeCheck e.2 = some (t, .verdict v)) →
      r.Idle s → ∃ whole part all chosen,
        r.run s = some (whole, .results all) ∧
        (r.filtered p).run s = some (part, .results chosen) ∧
        chosen.entries = all.entries.filter (fun e => p e.1) ∧
        (∀ e ∈ r.checks.entries, p e.1 = true → Agree e.2.places part.world whole.world) ∧
        ∀ e ∈ r.checks.entries, p e.1 = false → ∀ place ∈ e.2.places,
          part.world.read place = s.world.read place ∧ part.Spares place) ∧
    (r.filtered p).filtered q = r.filtered (fun name => p name && q name) ∧
    (∀ names others : List String, r.only names = r.filtered (fun name => decide (name ∈ names)) ∧
      ((∀ name ∈ r.names, name ∈ names ↔ name ∈ others) → r.only names = r.only others)) ∧
    ∀ (skips : NameMap UInt32) (one two : Nat) (turns : List Turn),
      (∀ e ∈ r.checks.entries, e.2.Avoids one ∧ e.2.Avoids two) → s.Unused one → s.Unused two →
      (∀ turn ∈ turns, turn.Avoids one ∧ turn.Avoids two) →
      (s.play? (turns.map (Turn.move ((r.withSkips one skips).filtered p)))).map
          (fun a => (a.1.shown, a.2)) =
        (s.play? (turns.map (Turn.move ((r.filtered p).withSkips two skips)))).map
          (fun a => (a.1.shown, a.2)) := by
  refine ⟨⟨r.names_filtered p, r.get?_filtered p⟩, fun separate finish idle => ?_,
    r.filtered_filtered p q, fun names others => ⟨?_, only_congr⟩, ?_⟩
  · exact run_filtered separate finish idle p
  · exact filtered_congr fun name _ => List.contains_eq_mem name names
  · intro skips one two turns avoids first second apart
    exact play?_withSkips_filtered skips p avoids first second apart

def slow : Probe :=
  .leaf (.ofList "a" [.finish 100 (.verdict (.ok "slow"))] true)

/-- Its first call takes half as long, and every other time it repeats itself. -/
def quicker : Probe :=
  .skip ⟨0, "b"⟩ 1 (.leaf (.ofList "b"
    [.finish 50 (.verdict (.ok "first")), .finish 0 (.verdict (.ok "second"))] true))

def paired : Roster :=
  ⟨.ofList [("a", slow), ("b", quicker)]⟩

theorem forall_paired {P : String × Probe → Prop} (first : P ("a", slow))
    (second : P ("b", quicker)) : ∀ e ∈ paired.checks.entries, P e := by
  intro e member
  rcases member with _ | ⟨_, _ | ⟨_, none⟩⟩
  · exact first
  · exact second
  · cases none

theorem finish_of_reply {c : Probe} {v : Verdict}
    (replied : (s.safeCheck c).map (·.2) = some (.verdict v)) :
    ∃ t v, s.safeCheck c = some (t, .verdict v) := by
  obtain ⟨⟨t, reply⟩, ended, rfl⟩ := Option.map_eq_some_iff.mp replied
  exact ⟨t, v, ended⟩

def isB (name : String) : Bool :=
  name == "b"

def rounds : List Turn :=
  [.own .run, .elsewhere (.evaluate paired .run), .own (.fanOut .borrow 20)]

theorem derived_restrict_paired :
    (∃ whole part all chosen,
      paired.run .fresh = some (whole, .results all) ∧
      (paired.filtered isB).run .fresh = some (part, .results chosen) ∧
      chosen.entries = all.entries.filter (fun e => isB e.1)) ∧
    paired.only ["c", "b", "b"] = paired.only ["b"] ∧
    (Session.fresh.play? (rounds.map (Turn.move
        ((paired.withSkips 1 (.ofList [("b", 2)])).filtered isB)))).map (fun a => (a.1.shown, a.2)) =
      (Session.fresh.play? (rounds.map (Turn.move
        ((paired.filtered isB).withSkips 2 (.ofList [("b", 2)]))))).map
          (fun a => (a.1.shown, a.2)) := by
  have separate : paired.Separate := by decide +kernel
  have finish : ∀ e ∈ paired.checks.entries, ∃ t v,
      Session.fresh.safeCheck e.2 = some (t, .verdict v) :=
    forall_paired (finish_of_reply (v := .ok "slow") (by decide +kernel))
      (finish_of_reply (v := .ok "first") (by decide +kernel))
  have idle : paired.Idle .fresh := idle_of_quiet rfl rfl
  have avoids : ∀ e ∈ paired.checks.entries, e.2.Avoids 1 ∧ e.2.Avoids 2 :=
    forall_paired (by simp [slow, Probe.Avoids, Probe.places])
      (by simp [quicker, Probe.Avoids, Probe.places])
  have apart : ∀ turn ∈ rounds, turn.Avoids 1 ∧ turn.Avoids 2 := by
    have source : ∀ p ∈ (Move.evaluate paired .run).checks, p.Avoids 1 ∧ p.Avoids 2 := by
      intro p member
      obtain ⟨e, inside, rfl⟩ := List.mem_map.mp member
      exact avoids e inside
    refine List.forall_mem_cons.mpr ⟨⟨trivial, trivial⟩, List.forall_mem_cons.mpr ⟨?_, ?_⟩⟩
    · exact ⟨fun p member => (source p member).1, fun p member => (source p member).2⟩
    · simp [Turn.Avoids]
  obtain ⟨-, run, -, only, skips⟩ := derived_restrict paired .fresh isB isB
  obtain ⟨whole, part, all, chosen, round, round', entries, -⟩ := run separate finish idle
  exact ⟨⟨whole, part, all, chosen, round, round', entries⟩, (only _ _).2 (by decide +kernel),
    skips (.ofList [("b", 2)]) 1 2 rounds avoids (Session.unused_fresh 1)
      (Session.unused_fresh 2) apart⟩

def told? (r : Roster) (s : Session) (name : String) : Option Verdict :=
  match r.run s with
  | some (_, .results results) => results.find? name
  | _ => none

/-- The check has been given up by a round of its own, and its first call goes on. -/
def overtaken : Session :=
  ((paired.filtered isB).fanOut .fresh .borrow 20).1

/-- While the slow check is waited for, the outstanding call ends and is stored. -/
theorem stored_overtaken :
    ∃ t, overtaken.safeCheck slow = some (t, .verdict (.ok "slow")) ∧
      t.world.cell ⟨0, "b"⟩ = ⟨1, some (.ok "first")⟩ := by
  have uncalled : (overtaken.world.tally "a").begun = 0 := by decide +kernel
  have course : (slow.begin overtaken.world).2 =
      .ends 100 [.finished "a"] (.verdict (.ok "slow")) := by
    rw [slow, Probe.begin, Leaf.ofList, uncalled]
    rfl
  have idle : (overtaken.launch slow).1.queued = [] := List.isEmpty_iff.mp (by decide +kernel)
  have now : overtaken.now = 20 := by decide +kernel
  have few : ((overtaken.launch slow).1.outstanding (.cell ⟨0, "b"⟩)).length ≤ 1 := by
    decide +kernel
  have passed : ∀ q ∈ (overtaken.launch slow).1.outstanding (.cell ⟨0, "b"⟩), q.due ≤ 120 := by
    decide +kernel
  have foreseen : (overtaken.launch slow).1.foreseen (.cell ⟨0, "b"⟩) =
      .inr ⟨1, some (.ok "first")⟩ := by
    decide +kernel
  refine ⟨(overtaken.launch slow).1.runTo 120, ?_, ?_⟩
  · simp only [Session.safeCheck_eq, course, Session.advance, Session.beginQueued_of_idle idle,
      Session.now_launch, now]
    rfl
  · exact Sum.inr.inj ((Session.read_runTo few passed).1.trans foreseen)

theorem told_overtaken : paired.told? overtaken "b" = some (.ok "first") := by
  obtain ⟨t, ended, cell⟩ := stored_overtaken
  have found : (t.world.cell ⟨0, "b"⟩).replay? 1 = some (.ok "first") := by rw [cell]; rfl
  have replayed : t.safeCheck quicker = some ((t.launch quicker).1, .verdict (.ok "first")) := by
    rw [Session.safeCheck_eq, quicker, Probe.begin_of_replay found]
    rfl
  have first : slow.isActive overtaken.world = true := by decide +kernel
  have second : quicker.isActive t.world = true :=
    (quicker.isActive_congr (off_safeCheck ended)).trans (by decide +kernel)
  have entries : paired.checks.entries = [("a", slow), ("b", quicker)] := rfl
  simp only [told?, run, entries, runFrom, first, ended, second, replayed, if_true]
  rfl

/-- With a call outstanding the filtered roster says something else: while the round of the source
waits for the slow check, the outstanding call ends and is stored. -/
theorem filtered_overtaken :
    paired.Separate ∧
    (∀ e ∈ paired.checks.entries, ∃ t v, overtaken.safeCheck e.2 = some (t, .verdict v)) ∧
    paired.told? overtaken "b" = some (.ok "first") ∧
    (paired.filtered isB).told? overtaken "b" = some (.ok "second") ∧
    ¬∃ whole part all chosen,
      paired.run overtaken = some (whole, .results all) ∧
      (paired.filtered isB).run overtaken = some (part, .results chosen) ∧
      chosen.entries = all.entries.filter (fun e => isB e.1) := by
  have source := told_overtaken
  have own : (paired.filtered isB).told? overtaken "b" = some (.ok "second") := by decide +kernel
  refine ⟨by decide +kernel, ?_, source, own, ?_⟩
  · exact forall_paired (finish_of_reply (v := .ok "slow") (by decide +kernel))
      (finish_of_reply (v := .ok "second") (by decide +kernel))
  · rintro ⟨whole, part, all, chosen, round, round', same⟩
    rw [told?, round] at source
    rw [told?, round'] at own
    have entries : chosen = all.filter isB := NameMap.ext same
    dsimp only at source own
    rw [entries, NameMap.find?_filter, source] at own
    revert own
    decide

end Roster

end HealthWatch
