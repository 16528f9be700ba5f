import HealthWatch.Proofs.Derived.Phase
import HealthWatch.Proofs.Evaluation.Calls
import HealthWatch.Proofs.Heartbeat.Life
import HealthWatch.Proofs.Heartbeat.Selection

/-!
# Skip counts over the life of a heartbeat

The cell of a skipping check outlives the runs of its heartbeat, so the beats of all runs together
are in phase. `skips_survive_restarts` says in which beats a check with a skip count is called and
which of these calls each beat tells of.
-/

namespace HealthWatch

namespace Begun

variable {key : Cell.Key} {skips : Nat} {p : Probe} {b : Begun} {v : Verdict}

/-- The check is called in the evaluation, and this is all that the evaluation begins. -/
def Reaches (b : Begun) (p : Probe) : Prop :=
  ∃ w, b.probe.Enters b.world p w ∧ (b.probe.begin b.world).1 = (p.begin w).1

theorem reaches_iff : b.Reaches p ↔ ∃ w, b.probe.Enters b.world p w :=
  ⟨fun ⟨w, enters, _⟩ => ⟨w, enters⟩, fun ⟨w, enters⟩ => ⟨w, enters, Probe.begin_of_enters enters⟩⟩

/-- The check is called in the evaluation, and that is its reply. -/
def Hears (b : Begun) (p : Probe) (v : Verdict) : Prop :=
  ∃ w, b.probe.Enters b.world p w ∧ Replies ⟨b.name, p, w⟩ v

/-- What a skipping check tells when it calls is what the check inside has replied. -/
theorem hears_of_calls (guarded : p.Guarded) (same : b.probe = .skip key skips p)
    (due : (b.world.cell key).replay? skips = none) (replied : b.Replies v) : b.Hears p v := by
  obtain ⟨after, effects, outcome, course, reply⟩ := replied
  have called := calls_of_due same due
  obtain ⟨more, result, inside⟩ := inside_of_ends called course
  rw [Begun.course, called, inside, Course.stored, guarded result] at course
  obtain ⟨-, -, rfl⟩ := Course.ends.inj course
  rw [same] at reply
  obtain rfl : result.caught = v := Reply.verdict.inj reply
  exact ⟨b.world.turn key, same ▸ .skip due (.here ..), after, more, result, inside, guarded result⟩

theorem tells_of_skip (same : b.probe = .skip key skips p)
    (ended : ∃ after effects outcome, b.course = .ends after effects outcome) :
    ∃ v, b.Replies v := by
  obtain ⟨after, effects, outcome, course⟩ := ended
  exact ⟨outcome.caught, after, effects, outcome, course, by rw [same]; rfl⟩

theorem tells_of_dying {text : String} (dies : ∀ outcome, p.reply outcome = .died text)
    (same : b.probe = .skip key skips p) (called : b.Calls key p)
    (ended : ∃ after effects outcome, b.course = .ends after effects outcome) :
    b.Tells (Reply.died text).outcome.caught := by
  obtain ⟨after, effects, outcome, course⟩ := ended
  obtain ⟨more, result, inside⟩ := inside_of_ends called course
  refine Replies.tells ⟨after, more, (Reply.died text).outcome, ?_, by rw [same]; rfl⟩
  rw [Begun.course, called, inside, Course.stored, dies result]

/-- The `i`-th evaluation of a check with a skip count. The call that it tells of was made in the
evaluation `first`. -/
structure Paced (b : Begun) (key : Cell.Key) (skips : Nat) (p : Probe) (i : Nat) (first : Begun)
    (v : Verdict) : Prop where
  calls : p.Guarded → (b.Reaches p ↔ i % (skips + 1) = 0)
  unguarded : ¬p.Guarded → b.Reaches p
  called : first.Reaches p
  hears : p.Guarded → first.Hears p v
  told : first.Tells v
  tells : b.Tells v
  repeats : ¬b.Reaches p → b.Repeats key v

/-- Every evaluation is paced by the first one of its `skips + 1`. -/
def InPace (key : Cell.Key) (skips : Nat) (p : Probe) (log : List Begun) : Prop :=
  ∀ i b, log[i]? = some b → ∃ first v, log[(skips + 1) * (i / (skips + 1))]? = some first ∧
    b.Paced key skips p i first v

theorem reaches_of_due (same : b.probe = .skip key skips p)
    (due : (b.world.cell key).replay? skips = none) : b.Reaches p := by
  rw [reaches_iff, same]
  exact Probe.enters_inner_iff.mpr due

theorem inPace_unskipped {log : List Begun} (ours : ∀ b ∈ log, b.probe = p ∧
    ∃ after effects outcome, b.course = .ends after effects outcome) : InPace key 0 p log := by
  intro i b present
  obtain ⟨same, after, effects, outcome, course⟩ := ours b (List.mem_of_getElem? present)
  have here : b.Reaches p := reaches_iff.mpr ⟨b.world, same ▸ .here ..⟩
  refine ⟨b, _, ?_, fun _ => ?_, fun _ => here, here, fun guarded => ?_,
    ⟨after, effects, outcome, course, rfl⟩, ⟨after, effects, outcome, course, rfl⟩,
    fun spared => absurd here spared⟩
  · rwa [Nat.zero_add, Nat.one_mul, Nat.div_one]
  · exact iff_of_true here (Nat.mod_one i)
  · have own : (⟨b.name, p, b.world⟩ : Begun).course = .ends after effects outcome := same ▸ course
    refine ⟨b.world, same ▸ .here .., after, effects, outcome, own, ?_⟩
    rw [same, guarded outcome]
    rfl

end Begun

/-- What a cell and the evaluations of its skipping check have in common, and which of them were
due. -/
structure Phased.Tracked (key : Cell.Key) (skips : Nat) (p : Probe) (log : List Begun)
    (c : Cell) : Prop where
  phased : Phased key skips p log c
  ours : ∀ i b, log[i]? = some b → b.probe = .skip key skips p ∧
    (∃ after effects outcome, b.course = .ends after effects outcome) ∧
    ((b.world.cell key).replay? skips = none ↔ i % (skips + 1) = 0)

namespace Phased.Tracked

open Begun

variable {key : Cell.Key} {skips : Nat} {p : Probe} {b : Begun} {log : List Begun}

theorem next (tracked : Tracked key skips p log (b.world.cell key)) (guarded : p.Guarded)
    (outside : .cell key ∉ p.places) (same : b.probe = .skip key skips p)
    (ended : ∃ after effects outcome, b.course = .ends after effects outcome) :
    Tracked key skips p (log ++ [b]) ((b.probe.settled b.world).cell key) := by
  refine ⟨tracked.phased.next guarded outside same ended, fun i c present => ?_⟩
  rcases getElem?_snoc present with ⟨-, old⟩ | ⟨rfl, rfl⟩
  · exact tracked.ours i c old
  · refine ⟨same, ended, fun due => ?_, tracked.phased.replay?_due⟩
    by_contra skipped
    obtain ⟨-, v, -, -, -, found⟩ := tracked.phased.replay?_skipped skipped
    rw [due] at found
    cases found

theorem inPace {c : Cell} (tracked : Tracked key skips p log c) (guarded : p.Guarded) :
    InPace key skips p log := by
  intro i b present
  obtain ⟨same, ended, due⟩ := tracked.ours i b present
  have reaches : b.Reaches p ↔ i % (skips + 1) = 0 := by
    rw [reaches_iff, same, Probe.enters_inner_iff, due]
  have whole := Nat.div_add_mod i (skips + 1)
  by_cases zero : i % (skips + 1) = 0
  · have start : (skips + 1) * (i / (skips + 1)) = i := by omega
    obtain ⟨v, replied⟩ := tells_of_skip same ended
    have hears := hears_of_calls guarded same (due.mpr zero) replied
    exact ⟨b, v, start.symm ▸ present, fun _ => reaches, fun unguarded => absurd guarded unguarded,
      reaches.mpr zero, fun _ => hears, replied.tells, replied.tells,
      fun spared => absurd (reaches.mpr zero) spared⟩
  · have law := tracked.phased.phase i b present
    rw [InPhaseAt, if_neg zero] at law
    obtain ⟨first, v, earlier, -, replied, repeats⟩ := law
    rw [show i - i % (skips + 1) = (skips + 1) * (i / (skips + 1)) by omega] at earlier
    obtain ⟨same', -, due'⟩ := tracked.ours _ first earlier
    have called := due'.mpr (Nat.mul_mod_right ..)
    have tells : b.Replies v := ⟨0, [], .verdict v, by rw [course, repeats], by rw [same]; rfl⟩
    exact ⟨first, v, earlier, fun _ => reaches, fun unguarded => absurd guarded unguarded,
      reaches_of_due same' called, fun _ => hears_of_calls guarded same' called replied,
      replied.tells, tells.tells, fun _ => repeats⟩

end Phased.Tracked

/-- The same for a check that dies: it is always due. -/
structure Unstored.Tracked (key : Cell.Key) (skips : Nat) (p : Probe) (log : List Begun)
    (c : Cell) : Prop where
  unstored : Unstored key p log c
  ours : ∀ b ∈ log, b.probe = .skip key skips p ∧
    (∃ after effects outcome, b.course = .ends after effects outcome) ∧
    (b.world.cell key).replay? skips = none

namespace Unstored.Tracked

open Begun

variable {key : Cell.Key} {skips : Nat} {p : Probe} {b : Begun} {log : List Begun} {text : String}

theorem next (tracked : Tracked key skips p log (b.world.cell key))
    (dies : ∀ outcome, p.reply outcome = .died text) (outside : .cell key ∉ p.places)
    (same : b.probe = .skip key skips p)
    (ended : ∃ after effects outcome, b.course = .ends after effects outcome) :
    Tracked key skips p (log ++ [b]) ((b.probe.settled b.world).cell key) := by
  refine ⟨tracked.unstored.next dies outside same ended, fun c member => ?_⟩
  rcases List.mem_append.mp member with old | new
  · exact tracked.ours c old
  · obtain rfl := List.mem_singleton.mp new
    exact ⟨same, ended, by rw [Cell.replay?, tracked.unstored.empty, ite_self]⟩

theorem inPace {c : Cell} (tracked : Tracked key skips p log c)
    (dies : ∀ outcome, p.reply outcome = .died text) : InPace key skips p log := by
  have unguarded : ¬p.Guarded := by
    intro guarded
    have both := (guarded (.verdict .healthy)).symm.trans (dies _)
    cases both
  have each : ∀ b ∈ log, b.Reaches p ∧ b.Tells (Reply.died text).outcome.caught := by
    intro b member
    obtain ⟨same, ended, due⟩ := tracked.ours b member
    exact ⟨reaches_of_due same due, tells_of_dying dies same (calls_of_due same due) ended⟩
  intro i b present
  obtain ⟨here, tells⟩ := each b (List.mem_of_getElem? present)
  have inside : (skips + 1) * (i / (skips + 1)) < log.length :=
    Nat.lt_of_le_of_lt (Nat.mul_div_le i _) (List.getElem?_eq_some_iff.mp present).1
  obtain ⟨called, told⟩ := each _ (List.getElem_mem inside)
  exact ⟨_, _, List.getElem?_eq_getElem inside, fun guarded => absurd guarded unguarded,
    fun _ => here, called, fun guarded => absurd guarded unguarded, told, tells,
    fun spared => absurd here spared⟩

end Unstored.Tracked

namespace Session

variable {s : Session} {place : Place}

theorem advance_spared (spares : s.Spares place) (ms : Nat) :
    (s.advance ms).Spares place ∧ (s.advance ms).world.read place = s.world.read place :=
  keeps_place_iff.mp ((stable_place place _).advance ms (keeps_place_iff.mpr ⟨spares, rfl⟩))

theorem giveUp_spared (spares : s.Spares place) (workers : Workers) :
    (s.shutdown workers).Spares place ∧
      (s.shutdown workers).world.read place = s.world.read place := by
  have moved : s.move? (.shutdown workers) = some (s.shutdown workers, .done) := rfl
  exact move?_spared (by simp [Move.checks]) spares moved

end Session

namespace Heartbeat

variable {h final : Heartbeat} {name : String} {key : Cell.Key} {q : Probe}

theorem linger_spared {place : Place} (spares : h.session.Spares place) (takes : Nat → Nat) :
    (h.linger takes).session.Spares place ∧
      (h.linger takes).session.world.read place = h.session.world.read place := by
  unfold linger
  generalize h.session = s at spares
  induction List.range h.life.listeners.length generalizing s with
  | nil => exact ⟨spares, rfl⟩
  | cons i rest ih =>
    obtain ⟨spared, read⟩ := Session.advance_spared spares (takes i)
    obtain ⟨spared', read'⟩ := ih (s.advance (takes i)) spared
    exact ⟨spared', read'.trans read⟩

def evaluations (h : Heartbeat) (name : String) : List Begun :=
  Begun.under name (h.roster.begun h.session (.fanOut h.workers h.settings.timeout.toNat))

/-- No beat is stopped in the middle, and nothing else uses the cell. -/
def Occurrence.Spares (key : Cell.Key) : Occurrence → Prop
  | .start | .stop => True
  | .beat cut _ => cut = none
  | .meanwhile change => ∀ s : Session, s.Spares (.cell key) →
    (change s).Spares (.cell key) ∧ (change s).world.cell key = s.world.cell key

/-- A move that has nothing to do with the cells of a series. -/
theorem Occurrence.spares_move {series : Nat} {m : Move} (foreign : ∀ p ∈ m.checks, p.Avoids series)
    (name : String) :
    (meanwhile fun s => ((s.move? m).map (·.1)).getD s).Spares ⟨series, name⟩ := by
  intro s spares
  dsimp only
  cases moved : s.move? m with
  | none => exact ⟨spares, rfl⟩
  | some a =>
    obtain ⟨free, read⟩ := Session.move?_spared (fun p member => foreign p member name) spares moved
    exact ⟨free, Sum.inr.inj read⟩

/-- The next beat evaluates the check `q`, of whose cell something is kept, as the only one that
uses it. -/
structure Poised (h : Heartbeat) (name : String) (key : Cell.Key) (q : Probe)
    (kept : Cell → Prop) : Prop where
  valid : h.settings.validate = .ok ()
  waits : h.Waits
  live : h.isRunning = true → h.workers.isLive = true
  present : h.roster.get? name = some q
  others : ∀ f ∈ h.roster.checks.entries, f.1 ≠ name → .cell key ∉ f.2.places
  spares : h.session.Spares (.cell key)
  held : kept (h.session.world.cell key)

variable {kept : Cell → Prop}

theorem Poised.idle (poised : h.Poised name key q kept) {o : Occurrence} (spared : o.Spares key)
    (quiet : h.brings o = []) : (h.after o).Poised name key q kept := by
  have waits := waits_after poised.waits o
  cases o with
  | start =>
    simp only [after] at waits ⊢
    cases started : h.start with
    | error fault => exact poised
    | ok h' =>
      rw [started] at waits
      obtain ⟨-, rfl⟩ := start_ok started
      exact ⟨poised.valid, waits, fun _ => rfl, poised.present, poised.others, poised.spares,
        poised.held⟩
  | stop =>
    obtain ⟨spares, read⟩ := Session.giveUp_spared poised.spares h.workers
    simp only [after, stop] at waits ⊢
    split
    · rename_i running
      rw [if_pos running] at waits
      have cell := Sum.inr.inj read
      exact ⟨poised.valid, waits, fun up => absurd up Bool.false_ne_true, poised.present,
        poised.others, spares, cell ▸ poised.held⟩
    · exact poised
  | beat cut takes =>
    simp only [brings] at quiet
    split at quiet
    · cases quiet
    · rename_i idle
      simp only [after, if_neg idle]
      exact poised
  | meanwhile change =>
    obtain ⟨spares, cell⟩ := spared h.session poised.spares
    exact ⟨poised.valid, poised.waits, poised.live, poised.present, poised.others, spares,
      cell ▸ poised.held⟩

/-- A beat evaluates an active check once, and leaves its cell as this evaluation does. -/
theorem Poised.beat (poised : h.Poised name key q kept) (running : h.isRunning = true)
    (active : q.isActive h.session.world = true)
    (inTime : ∀ c ∈ h.evaluations name, c.EndsBy h.settings.timeout.toNat) :
    ∃ c, h.evaluations name = [c] ∧ c.name = name ∧ c.probe = q ∧
      c.EndsBy h.settings.timeout.toNat ∧ kept (c.world.cell key) ∧
      ∀ (takes : Nat → Nat) (kept' : Cell → Prop), kept' ((c.probe.settled c.world).cell key) →
        ((h.afterBeat none).linger takes).Poised name key q kept' := by
  have positive := (Settings.positive_of_valid poised.valid).2.1
  obtain ⟨spares, left⟩ := Roster.fanOut_at poised.others poised.spares rfl (poised.live running)
    (fun _ => positive) inTime
  have named : name ∈ (h.roster.begun h.session
      (.fanOut h.workers h.settings.timeout.toNat)).map (·.name) := by
    rw [Roster.names_begun_fanOut]
    have entry := NameMap.mem_of_find? poised.present
    exact List.mem_map.mpr ⟨(name, q), List.mem_filter.mpr ⟨entry, active⟩, rfl⟩
  rcases left with ⟨nothing, -⟩ | ⟨c, only, began, read⟩
  · obtain ⟨c, member, rfl⟩ := List.mem_map.mp named
    have ours : c ∈ Begun.under c.name _ := List.mem_filter.mpr ⟨member, BEq.rfl⟩
    rw [nothing] at ours
    cases ours
  · have ours : c ∈ h.evaluations name := by
      rw [evaluations, only]
      exact List.mem_singleton_self c
    obtain ⟨member, same⟩ := List.mem_filter.mp ours
    obtain rfl : c.name = name := eq_of_beq same
    have probe : c.probe = q :=
      Option.some.inj ((Roster.begun_get? member).symm.trans poised.present)
    have cell := Sum.inr.inj began
    refine ⟨c, only, rfl, probe, inTime c ours, cell ▸ poised.held, fun takes kept' holds => ?_⟩
    obtain ⟨spares', read'⟩ := linger_spared (h := h.afterBeat none) spares takes
    have settled := Sum.inr.inj (read'.trans read)
    exact ⟨poised.valid, waits_afterBeat (poised.waits running) none,
      fun _ => poised.live running, poised.present, poised.others, spares', settled ▸ holds⟩

/-- What an evaluation of the check hands on to the next one holds over all beats. -/
theorem Poised.keeps {kept : List Begun → Cell → Prop}
    (next : ∀ log c, c.probe = q → (∃ after effects outcome, c.course = .ends after effects outcome) →
      kept log (c.world.cell key) → kept (log ++ [c]) ((c.probe.settled c.world).cell key))
    {log : List Begun} (poised : h.Poised name key q (kept log)) {occurrences : List Occurrence}
    (spared : ∀ o ∈ occurrences, o.Spares key) {beats : List Beaten}
    (lived : h.live? occurrences = some (final, beats))
    (active : ∀ b ∈ beats, q.isActive b.before.session.world = true)
    (inTime : ∀ b ∈ beats, ∀ c ∈ b.before.evaluations name,
      c.EndsBy b.before.settings.timeout.toNat) :
    ∃ more, beats.map (·.before.evaluations name) = more.map ([·]) ∧
      (∀ b ∈ beats, b.before.workers.isLive = true ∧ b.beat = b.before.heard none) ∧
      kept (log ++ more) (final.session.world.cell key) := by
  -- Over the occurrences: only a beat evaluates the check, and all others leave it poised.
  induction occurrences generalizing h log beats with
  | nil =>
    cases lived
    exact ⟨[], rfl, by simp, by rw [List.append_nil]; exact poised.held⟩
  | cons o rest ih =>
    obtain ⟨now, later⟩ := List.forall_mem_cons.mp spared
    rw [live?, occur?_waits poised.waits, Option.bind_some] at lived
    obtain ⟨⟨last, told⟩, went, same⟩ := Option.map_eq_some_iff.mp lived
    cases same
    by_cases quiet : h.brings o = []
    · rw [quiet, List.nil_append] at active inTime ⊢
      exact ih (poised.idle now quiet) later went active inTime
    · cases o with
      | beat cut takes =>
        obtain rfl : cut = none := now
        by_cases running : h.isRunning = true
        · have brought : h.brings (.beat none takes) = [⟨h, h.heard none⟩] := if_pos running
          have goes : h.after (.beat none takes) = (h.afterBeat none).linger takes := if_pos running
          rw [brought] at active inTime ⊢
          rw [goes] at went
          obtain ⟨first, active⟩ := List.forall_mem_cons.mp active
          obtain ⟨early, inTime⟩ := List.forall_mem_cons.mp inTime
          obtain ⟨c, only, -, probe, ended, held, onward⟩ := poised.beat running first early
          obtain ⟨after, effects, outcome, course, -⟩ := ended
          have holds := next log c probe ⟨after, effects, outcome, course⟩ held
          obtain ⟨more, each, whole, last⟩ := ih (onward takes _ holds) later went active inTime
          refine ⟨c :: more, ?_, ?_, by simpa using last⟩
          · rw [List.singleton_append, List.map_cons, List.map_cons, each, only]
          · exact List.forall_mem_cons.mpr ⟨⟨poised.live running, rfl⟩, whole⟩
        · exact absurd (if_neg running) quiet
      | _ => exact absurd rfl quiet

/-! ### The whole life -/

variable {source : Roster} {settings : Settings} {series : Nat} {listeners : List Listener}
  {session : Session} {reports : List Event} {p : Probe} {skips : UInt32}

theorem live?_keeps
    (created : create source settings series listeners session = .ok (h, reports))
    (avoids : ∀ e ∈ source.checks.entries, e.2.Avoids series) (unused : session.Unused series)
    (evaluated : (effective source settings series).get? name = some q)
    {occurrences : List Occurrence} (spared : ∀ o ∈ occurrences, o.Spares ⟨series, name⟩)
    {beats : List Beaten} (lived : h.live? occurrences = some (final, beats))
    (active : ∀ b ∈ beats, q.isActive b.before.session.world = true)
    (inTime : ∀ b ∈ beats, ∀ c ∈ b.before.evaluations name,
      c.EndsBy b.before.settings.timeout.toNat)
    (kept : List Begun → Cell → Prop) (fresh : kept [] .fresh)
    (next : ∀ log c, c.probe = q → (∃ after effects outcome, c.course = .ends after effects outcome) →
      kept log (c.world.cell ⟨series, name⟩) →
      kept (log ++ [c]) ((c.probe.settled c.world).cell ⟨series, name⟩)) :
    ∃ log, beats.map (·.before.evaluations name) = log.map ([·]) ∧
      (∀ b ∈ beats, b.before.workers.isLive = true ∧ b.beat = b.before.heard none) ∧
      kept log (final.session.world.cell ⟨series, name⟩) := by
  obtain ⟨valid, same, -⟩ := create_ok created
  have poised : h.Poised name ⟨series, name⟩ q (kept []) := by
    rw [same]
    refine ⟨valid, nofun, nofun, evaluated, ?_, unused.spares name,
      (unused.fresh name).symm ▸ fresh⟩
    apply Roster.withSkips_others
    intro e member
    rw [selected_eq] at member
    exact avoids e (List.mem_filter.mp member).1
  exact poised.keeps next spared lived active inTime

theorem live?_inPace
    (created : create source settings series listeners session = .ok (h, reports))
    (avoids : ∀ e ∈ source.checks.entries, e.2.Avoids series) (unused : session.Unused series)
    (present : source.get? name = some p) (chosen : settings.selects name = true)
    (counted : settings.skips.find? name = some skips) {occurrences : List Occurrence}
    (spared : ∀ o ∈ occurrences, o.Spares ⟨series, name⟩) {beats : List Beaten}
    (lived : h.live? occurrences = some (final, beats))
    (active : ∀ b ∈ beats, p.isActive b.before.session.world = true)
    (inTime : ∀ b ∈ beats, ∀ c ∈ b.before.evaluations name,
      c.EndsBy b.before.settings.timeout.toNat) :
    ∃ log, beats.map (·.before.evaluations name) = log.map ([·]) ∧
      (∀ b ∈ beats, b.before.workers.isLive = true ∧ b.beat = b.before.heard none) ∧
      Begun.InPace ⟨series, name⟩ skips.toNat p log := by
  obtain ⟨wrapped, bare⟩ := get?_effective present chosen series
  have outside : .cell ⟨series, name⟩ ∉ p.places :=
    avoids (name, p) (NameMap.mem_of_find? present) name
  by_cases zero : skips = 0
  -- The check is not wrapped.
  · have same := bare fun count found => (Option.some.inj (counted.symm.trans found)) ▸ zero
    obtain ⟨log, each, whole, ours⟩ := live?_keeps created avoids unused same spared lived active
      inTime (fun log _ => ∀ b ∈ log, b.probe = p ∧
        ∃ after effects outcome, b.course = .ends after effects outcome) (by simp) (by
        intro log c same ended kept b member
        rcases List.mem_append.mp member with old | new
        · exact kept b old
        · exact List.mem_singleton.mp new ▸ ⟨same, ended⟩)
    rw [zero]
    exact ⟨log, each, whole, Begun.inPace_unskipped ours⟩
  · have positive : 0 < skips := UInt32.pos_iff_ne_zero.mpr zero
    have same := wrapped skips counted positive
    rcases p.guarded_or_dies with guarded | ⟨text, dies⟩
    · obtain ⟨log, each, whole, tracked⟩ := live?_keeps created avoids unused same spared lived
        active inTime (Phased.Tracked ⟨series, name⟩ skips.toNat p) ⟨⟨rfl, nofun, nofun⟩, nofun⟩
        fun log c same ended tracked => tracked.next guarded outside same ended
      exact ⟨log, each, whole, tracked.inPace guarded⟩
    · obtain ⟨log, each, whole, tracked⟩ := live?_keeps created avoids unused same spared lived
        active inTime (Unstored.Tracked ⟨series, name⟩ skips.toNat p) ⟨⟨by simp, rfl⟩, by simp⟩
        fun log c same ended tracked => tracked.next dies outside same ended
      exact ⟨log, each, whole, tracked.inPace dies⟩

theorem heard_of_tells (positive : 0 < h.settings.timeout.toNat) (live : h.workers.isLive = true)
    {c : Begun} (ours : c ∈ h.evaluations name) (inTime : c.EndsBy h.settings.timeout.toNat)
    {v : Verdict} (tells : c.Tells v) : (h.heard none).results.find? name = some v := by
  obtain ⟨begun, named⟩ := List.mem_filter.mp ours
  obtain rfl : c.name = name := eq_of_beq named
  exact Roster.told_fanOut rfl live positive begun inTime tells

theorem getElem?_evaluations {beats : List Beaten} {log : List Begun}
    (single : beats.map (·.before.evaluations name) = log.map ([·])) (i : Nat) :
    (∀ b, beats[i]? = some b → ∃ c, log[i]? = some c ∧ b.before.evaluations name = [c]) ∧
      ∀ c, log[i]? = some c → ∃ b, beats[i]? = some b ∧ b.before.evaluations name = [c] := by
  have at_ : (beats[i]?).map (·.before.evaluations name) = (log[i]?).map ([·]) := by
    rw [← List.getElem?_map, ← List.getElem?_map, single]
  constructor
  · intro b here
    rw [here, Option.map_some, eq_comm, Option.map_eq_some_iff] at at_
    obtain ⟨c, logged, only⟩ := at_
    exact ⟨c, logged, only.symm⟩
  · intro c logged
    rw [logged] at at_
    exact Option.map_eq_some_iff.mp at_

/-- However a heartbeat is started and stopped between its beats, and whatever else happens that has
nothing to do with the cell of its check, every beat evaluates an active check once. With a skip
count, and as long as each evaluation ends in time, the beats call the check in every `skips + 1`-th
of them, over all runs, and each tells every listener the result of the latest of these calls. Only
a check that dies is called in every beat. -/
theorem skips_survive_restarts
    (created : create source settings series listeners session = .ok (h, reports))
    (avoids : ∀ e ∈ source.checks.entries, e.2.Avoids series) (unused : session.Unused series)
    (present : source.get? name = some p) (chosen : settings.selects name = true)
    (counted : settings.skips.find? name = some skips) (occurrences : List Occurrence)
    (spared : ∀ o ∈ occurrences, o.Spares ⟨series, name⟩) :
    ∃ final beats, h.live? occurrences = some (final, beats) ∧
      beats.length = beatsOf false occurrences ∧
      ((∀ b ∈ beats, p.isActive b.before.session.world = true) →
        (∀ b ∈ beats, ∀ c ∈ b.before.evaluations name, c.EndsBy settings.timeout.toNat) →
        ∀ j b, beats[j]? = some b → ∃ b₀ c₀ c v,
          beats[(skips.toNat + 1) * (j / (skips.toNat + 1))]? = some b₀ ∧
          b₀.before.evaluations name = [c₀] ∧ b.before.evaluations name = [c] ∧
          c.Paced ⟨series, name⟩ skips.toNat p j c₀ v ∧
          b₀.beat.results.find? name = some v ∧ b.beat.results.find? name = some v ∧
          b.beat.deliveries = listeners.map fun l => ⟨l.name, j + 1, b.beat.results⟩) := by
  obtain ⟨valid, same, -⟩ := create_ok created
  have idle : h.isRunning = false := by rw [same]; rfl
  have waits : h.Waits := by
    intro running
    rw [idle] at running
    cases running
  have settled : h.settings.validate = .ok () := by rw [same]; exact valid
  obtain ⟨final, beats, lived, -, count, -, each⟩ := live?_beats settled waits occurrences
  rw [idle] at count
  refine ⟨final, beats, lived, count, fun active inTime => ?_⟩
  -- `Poised` speaks of the settings that each beat finds, which are those of the creation.
  have unchanged : ∀ b ∈ beats, b.before.settings = settings := by
    intro b member
    obtain ⟨k, inside, rfl⟩ := List.getElem_of_mem member
    have since := (each k _ (List.getElem?_eq_getElem inside)).1
    rw [since.settings, same]
  have early : ∀ b ∈ beats, ∀ c ∈ b.before.evaluations name,
      c.EndsBy b.before.settings.timeout.toNat := by
    intro b member c ours
    rw [unchanged b member]
    exact inTime b member c ours
  obtain ⟨log, single, whole, pace⟩ :=
    live?_inPace created avoids unused present chosen counted spared lived active early
  have positive := (Settings.positive_of_valid valid).2.1
  have told : ∀ b ∈ beats, ∀ c v, b.before.evaluations name = [c] → c.Tells v →
      b.beat.results.find? name = some v := by
    intro b member c v only tells
    have ours : c ∈ b.before.evaluations name := only ▸ List.mem_singleton_self c
    obtain ⟨live, heard⟩ := whole b member
    rw [← unchanged b member] at positive
    rw [heard]
    exact heard_of_tells positive live ours (early b member c ours) tells
  intro j b here
  obtain ⟨c, logged, only⟩ := (getElem?_evaluations single j).1 b here
  obtain ⟨c₀, v, earlier, paced⟩ := pace j c logged
  obtain ⟨b₀, there, only₀⟩ := (getElem?_evaluations single _).2 c₀ earlier
  have listed := List.mem_of_getElem? here
  have told₀ := told b₀ (List.mem_of_getElem? there) c₀ v only₀ paced.told
  refine ⟨b₀, c₀, c, v, there, only₀, only, paced, told₀, told b listed c v only paced.tells, ?_⟩
  obtain ⟨since, -⟩ := each j b here
  have counted : b.before.life.beats = j := by
    have := since.beats
    rw [same] at this
    exact this.trans (Nat.zero_add j)
  rw [(whole b listed).2]
  show b.before.life.listeners.map _ = _
  rw [since.listeners, same, counted]
  rfl

def halved : Settings :=
  { Settings.default with skips := .ofList [("db", 1)] }

/-- Asks the shared database in every other beat. -/
def halving : Heartbeat :=
  ⟨halved, effective Roster.shared halved 7, .idle [.latest], ⟨halved.poolSize.toNat, .down⟩, .fresh⟩

/-- After its first beat the heartbeat is stopped, and the database is asked by others. -/
def interrupted : List Occurrence :=
  [.start, .beat none fun _ => 3, .stop,
    .meanwhile fun s => ((s.move? (.evaluate Roster.shared .run)).map (·.1)).getD s,
    .start, .beat none fun _ => 0, .beat none fun _ => 0, .stop, .start, .beat none fun _ => 0]

theorem skips_survive_restarts_interrupted :
    ∃ final beats, halving.live? interrupted = some (final, beats) ∧
      beats.map (·.beat.results.find? "db") =
        [some (.ok "one"), some (.ok "one"), some (.ok "three"), some (.ok "three")] ∧
      (final.session.world.tally "db").begun = 3 ∧
      ∀ j b, beats[j]? = some b →
        ∃ c, b.before.evaluations "db" = [c] ∧ (c.Reaches Roster.database ↔ j % 2 = 0) := by
  have avoids : ∀ e ∈ Roster.shared.checks.entries, e.2.Avoids 7 := by
    intro e member name inside
    rcases member with _ | ⟨_, _ | ⟨_, none⟩⟩
    · simp [Roster.database, Probe.places] at inside
    · simp [Probe.places] at inside
    · cases none
  have foreign : ∀ p ∈ (Move.evaluate Roster.shared .run).checks, p.Avoids 7 := by
    intro p member
    obtain ⟨e, inside, rfl⟩ := List.mem_map.mp member
    exact avoids e inside
  have spared : ∀ o ∈ interrupted, o.Spares ⟨7, "db"⟩ := by
    have apart := Occurrence.spares_move foreign "db"
    simp only [interrupted, List.forall_mem_cons]
    exact ⟨trivial, rfl, trivial, apart, trivial, rfl, rfl, trivial, trivial, rfl,
      List.forall_mem_nil _⟩
  have created : create Roster.shared halved 7 [.latest] .fresh = .ok (halving, []) := rfl
  obtain ⟨final, beats, lived, -, pace⟩ := skips_survive_restarts created avoids
    (Session.unused_fresh 7) (p := Roster.database) rfl rfl rfl interrupted spared
  have active : ∀ b ∈ ((halving.live? interrupted).map (·.2)).getD [],
      Roster.database.isActive b.before.session.world = true := by decide +kernel
  have inTime : ∀ b ∈ ((halving.live? interrupted).map (·.2)).getD [],
      ∀ c ∈ b.before.evaluations "db", c.EndsBy halved.timeout.toNat := by decide +kernel
  have told : (halving.live? interrupted).map (fun a =>
        (a.2.map (·.beat.results.find? "db"), (a.1.session.world.tally "db").begun)) =
      some ([some (.ok "one"), some (.ok "one"), some (.ok "three"), some (.ok "three")], 3) := by
    decide +kernel
  rw [lived] at active inTime told
  obtain ⟨results, calls⟩ := Prod.mk.inj (Option.some.inj told)
  refine ⟨final, beats, lived, results, calls, fun j b here => ?_⟩
  obtain ⟨_, _, c, _, -, -, only, paced, -⟩ := pace active inTime j b here
  exact ⟨c, only, paced.calls fun _ => rfl⟩

/-- A check that dies, with a skip count. -/
def stubborn : Heartbeat :=
  let settings := { Settings.default with skips := .ofList [("n", 1)] }
  ⟨settings, effective Roster.flawed settings 7, .idle [], ⟨settings.poolSize.toNat, .down⟩, .fresh⟩

def stopAndGo : List Occurrence :=
  [.start, .beat none fun _ => 0, .stop, .start, .beat none fun _ => 0]

/-- The second beat should spare it, and calls it again. -/
theorem dying_called_every_beat :
    ∃ final beats, stubborn.live? stopAndGo = some (final, beats) ∧
      (∀ b ∈ beats, (Probe.dying "n" "boom").isActive b.before.session.world = true ∧
        ∀ c ∈ b.before.evaluations "n", c.EndsBy stubborn.settings.timeout.toNat) ∧
      beats.map (fun b => (b.before.session.world.tally "n").begun) = [0, 1] ∧
      (final.session.world.tally "n").begun = 2 := by
  obtain ⟨final, beats, lived, -⟩ := live?_beats (h := stubborn) rfl nofun stopAndGo
  have inTime : ∀ b ∈ ((stubborn.live? stopAndGo).map (·.2)).getD [],
      (Probe.dying "n" "boom").isActive b.before.session.world = true ∧
        ∀ c ∈ b.before.evaluations "n", c.EndsBy stubborn.settings.timeout.toNat := by
    decide +kernel
  have calls : (stubborn.live? stopAndGo).map (fun a =>
      (a.2.map (fun b => (b.before.session.world.tally "n").begun),
        (a.1.session.world.tally "n").begun)) = some ([0, 1], 2) := by
    decide +kernel
  rw [lived] at inTime calls
  obtain ⟨before, after⟩ := Prod.mk.inj (Option.some.inj calls)
  exact ⟨final, beats, lived, inTime, before, after⟩

end Heartbeat

end HealthWatch
