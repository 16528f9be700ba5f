import HealthWatch.Proofs.Derived.Begun
import HealthWatch.Proofs.Fanout.Shutdown
import HealthWatch.Workshop

/-!
# The life of a pool

The first shutdown of an owned pool takes all the others with it: from then on the workshop is
`Dark` and cancels every task unbegun (`shutdown_respected`). A borrowed pool serves as if no
shutdown had been asked for.
-/

namespace HealthWatch

namespace Workshop

variable {α : Type}

theorem serveAll_cons (w : Workshop) (request : Request α) (rest : List (Request α)) :
    w.serveAll (request :: rest) =
      (((w.serve request).1.serveAll rest).1,
        (w.serve request).2 :: ((w.serve request).1.serveAll rest).2) := rfl

theorem serveAll_append (w : Workshop) (before after : List (Request α)) :
    w.serveAll (before ++ after) =
      (((w.serveAll before).1.serveAll after).1,
        (w.serveAll before).2 ++ ((w.serveAll before).1.serveAll after).2) := by
  induction before generalizing w with
  | nil => rfl
  | cons request rest ih => simp only [List.cons_append, serveAll, ih]

end Workshop

/-! ### Ownership -/

namespace Workers

@[simp] theorem size_shutdown (w : Workers) : w.shutdown.size = w.size := by
  obtain ⟨size, engine⟩ := w
  cases engine <;> rfl

@[simp] theorem isOwned_shutdown (w : Workers) : w.shutdown.isOwned = false := by
  obtain ⟨size, engine⟩ := w
  cases engine <;> rfl

theorem shutdown_of_borrowed {w : Workers} (borrowed : w.isBorrowed = true) :
    w.shutdown = w ∧ w.isOwned = false := by
  obtain ⟨size, engine⟩ := w
  cases engine with
  | borrowed => exact ⟨rfl, rfl⟩
  | running | down => cases borrowed

theorem shutdown_of_down {w : Workers} (down : w.isLive = false) :
    w.shutdown = w ∧ w.isOwned = false ∧ w.isBorrowed = false := by
  obtain ⟨size, engine⟩ := w
  cases engine with
  | borrowed | running => cases down
  | down => exact ⟨rfl, rfl, rfl⟩

end Workers

namespace Workshop

variable {α : Type} {w : Workshop}

theorem workers_serve (w : Workshop) (request : Request α) :
    (w.serve request).1.workers = w.workers ∨
      request = .shutdown ∧ (w.serve request).1.workers = w.workers.shutdown := by
  cases request with
  | shutdown => exact .inr ⟨rfl, rfl⟩
  | _ => exact .inl rfl

theorem size_serveAll (w : Workshop) (requests : List (Request α)) :
    (w.serveAll requests).1.workers.size = w.workers.size := by
  induction requests generalizing w with
  | nil => rfl
  | cons request rest ih =>
    rw [serveAll_cons, ih]
    rcases w.workers_serve request with same | ⟨-, down⟩
    · rw [same]
    · rw [down, Workers.size_shutdown]

theorem isOwned_serve (w : Workshop) (request : Request α) :
    (w.serve request).1.workers.isOwned = true ↔
      w.workers.isOwned = true ∧ request ≠ .shutdown := by
  cases request with
  | shutdown => simp [serve]
  | _ => exact ⟨fun owned => ⟨owned, nofun⟩, And.left⟩

theorem isOwned_serveAll (w : Workshop) (requests : List (Request α)) :
    (w.serveAll requests).1.workers.isOwned = true ↔
      w.workers.isOwned = true ∧ .shutdown ∉ requests := by
  induction requests generalizing w with
  | nil => simp [serveAll]
  | cons request rest ih =>
    rw [serveAll_cons, ih, isOwned_serve, List.mem_cons, not_or, and_assoc, ne_comm]

/-! ### Borrowed pools -/

theorem serve_shutdown_of_borrowed (borrowed : w.workers.isBorrowed = true) :
    w.serve (α := α) .shutdown = (w, .done) := by
  obtain ⟨same, unowned⟩ := Workers.shutdown_of_borrowed borrowed
  rw [serve, same, Session.shutdown, unowned]
  rfl

theorem isBorrowed_serve (borrowed : w.workers.isBorrowed = true) (request : Request α) :
    (w.serve request).1.workers.isBorrowed = true := by
  rcases w.workers_serve request with same | ⟨-, down⟩
  · rw [same, borrowed]
  · rw [down, (Workers.shutdown_of_borrowed borrowed).1, borrowed]

theorem isBorrowed_serveAll (borrowed : w.workers.isBorrowed = true)
    (requests : List (Request α)) : (w.serveAll requests).1.workers.isBorrowed = true := by
  induction requests generalizing w with
  | nil => exact borrowed
  | cons request rest ih => exact ih (isBorrowed_serve borrowed request)

/-! ### Pools that are down -/

/-- The pool is down, and nothing of the session goes on or waits for its begin. -/
structure Dark (w : Workshop) : Prop where
  down : w.workers.isLive = false
  quiet : w.session.pending = []
  idle : w.session.queued = []

end Workshop

theorem collect_cancelled (now timeout : Nat) (checks : List (String × Probe)) :
    collect (now + timeout) now (checks.map fun e => ⟨e.1, some (now, .cancelled)⟩) =
      (now, checks.map fun e => (⟨e.1, some (now, .cancelled)⟩, now, .ended .cancelled)) := by
  induction checks with
  | nil => rfl
  | cons e rest ih => simp [collect, Job.await, ih]

namespace Session

variable {s : Session}

theorem runTo_of_quiet (quiet : s.pending = []) (t : Nat) : s.runTo t = { s with now := t } := by
  simp [runTo, dueBy, quiet]

/-- Reports of one moment are added in their order. -/
theorem addReports_together (s : Session) (time : Nat) (events : List Event) :
    s.addReports s.reports.length (events.map (time, ·)) =
      { s with reports := s.reports ++ events.map (time, ·) } := by
  have sorted : (events.map (time, ·)).Pairwise fun a b => decide (a.1 ≤ b.1) = true :=
    List.pairwise_map.mpr (List.pairwise_of_forall (by simp))
  simp [addReports, List.mergeSort_of_pairwise sorted]

def cancelAll (s : Session) (checks : List (String × Probe)) : Session :=
  { s with reports := s.reports ++
      (checks.map fun e => .taskFailed e.1 "task # was cancelled").map (s.now, ·) }

theorem awaitAll_cancelled (quiet : s.pending = []) (timeout : Nat)
    (checks : List (String × Probe)) :
    s.awaitAll s.now timeout s.reports.length
        (checks.map fun e => ⟨e.1, some (s.now, .cancelled)⟩) =
      (s.cancelAll checks, .ofList (checks.map fun e =>
        (e.1, .critical "health check task failed: task # was cancelled"))) := by
  have told : (checks.filterMap fun e =>
      ((Awaited.ended .cancelled).event? e.1 timeout).map fun event => (s.now, event)) =
      (checks.map fun e => .taskFailed e.1 "task # was cancelled").map (s.now, ·) := by
    rw [List.map_map]
    exact congrFun List.filterMap_eq_map checks
  have stays : s.runTo s.now = s := runTo_of_quiet quiet s.now
  rw [awaitAll, collect_cancelled]
  simp only [List.filterMap_map, List.map_map, Function.comp_def, stays]
  rw [told, addReports_together]
  rfl

end Session

theorem Session.queued_spawnAll (s : Session) (workers : Workers)
    (checks : List (String × Probe)) : (s.spawnAll workers checks).1.queued = s.queued := by
  rw [spawnAll]
  split
  · exact s.queued_launchAll checks
  · rfl

/-- A round on a pool that is down reports every active check as cancelled, and no more happens. -/
theorem Roster.fanOut_of_down {workers : Workers} {s : Session} (down : workers.isLive = false)
    (quiet : s.pending = []) (idle : s.queued = []) (r : Roster) (timeout : Nat) :
    r.fanOut s workers timeout =
      (s.cancelAll (r.active s.world), .ofList ((r.active s.world).map fun e =>
        (e.1, .critical "health check task failed: task # was cancelled"))) := by
  obtain ⟨-, -, unborrowed⟩ := Workers.shutdown_of_down down
  rw [← Session.awaitAll_cancelled quiet timeout]
  simp [fanOut, unborrowed, Session.beginQueued_of_idle idle, Session.spawnAll, down]

namespace Workshop

variable {α : Type} {w : Workshop}

namespace Dark

theorem serve_shutdown (dark : w.Dark) : w.serve (α := α) .shutdown = (w, .done) := by
  obtain ⟨same, unowned, -⟩ := Workers.shutdown_of_down dark.down
  rw [serve, same, Session.shutdown, unowned]
  rfl

theorem serve_spawn (dark : w.Dark) (task : String → α) :
    w.serve (.spawn task) = (w, .result none) := by
  simp [serve, Workers.spawn, dark.down]

theorem serve_give (dark : w.Dark) (name : String) (p : Probe) :
    w.serve (α := α) (.give name p) =
      (w, .jobs [⟨name, some (w.session.now, .cancelled)⟩]) := by
  obtain ⟨-, -, unborrowed⟩ := Workers.shutdown_of_down dark.down
  simp [serve, Session.give, unborrowed, Session.spawnAll, dark.down]

theorem serve_round (dark : w.Dark) (r : Roster) (timeout : Nat) :
    w.serve (α := α) (.round r timeout) =
      ({ w with session := w.session.cancelAll (r.active w.session.world) },
        .results (.ofList ((r.active w.session.world).map fun e =>
          (e.1, .critical "health check task failed: task # was cancelled")))) := by
  rw [serve, Roster.fanOut_of_down dark.down dark.quiet dark.idle]

theorem serve_pass (dark : w.Dark) (ms : Nat) :
    w.serve (α := α) (.pass ms) =
      ({ w with session := { w.session with now := w.session.now + ms } }, .done) := by
  rw [serve, Session.advance, Session.beginQueued_of_idle dark.idle,
    Session.runTo_of_quiet dark.quiet]

/-- A pool that is down stays down, and no request begins a check or moves a cell. -/
theorem serve (dark : w.Dark) (request : Request α) :
    (w.serve request).1.Dark ∧
      (w.serve request).1.session.world.tally = w.session.world.tally ∧
      (w.serve request).1.session.world.cell = w.session.world.cell := by
  cases request with
  | spawn task => rw [dark.serve_spawn]; exact ⟨dark, rfl, rfl⟩
  | give name p => rw [dark.serve_give]; exact ⟨dark, rfl, rfl⟩
  | round r timeout =>
    rw [dark.serve_round]
    exact ⟨⟨dark.down, dark.quiet, dark.idle⟩, rfl, rfl⟩
  | shutdown => rw [dark.serve_shutdown]; exact ⟨dark, rfl, rfl⟩
  | query => exact ⟨dark, rfl, rfl⟩
  | pass ms => rw [dark.serve_pass]; exact ⟨⟨dark.down, dark.quiet, dark.idle⟩, rfl, rfl⟩
  | switch id on => exact ⟨⟨dark.down, dark.quiet, dark.idle⟩, rfl, rfl⟩

theorem serveAll (dark : w.Dark) (requests : List (Request α)) :
    (w.serveAll requests).1.Dark ∧
      (w.serveAll requests).1.session.world.tally = w.session.world.tally ∧
      (w.serveAll requests).1.session.world.cell = w.session.world.cell := by
  induction requests generalizing w with
  | nil => exact ⟨dark, rfl, rfl⟩
  | cons request rest ih =>
    obtain ⟨next, tally, cell⟩ := dark.serve request
    obtain ⟨last, tallies, cells⟩ := ih next
    exact ⟨last, tallies.trans tally, cells.trans cell⟩

end Dark

/-! ### The way down -/

theorem queued_serve (unborrowed : w.workers.isBorrowed = false) (idle : w.session.queued = [])
    (request : Request α) : (w.serve request).1.session.queued = [] := by
  cases request with
  | spawn | query => exact idle
  | give name p =>
    simp only [serve, Session.give, unborrowed, Bool.false_eq_true, if_false]
    rw [Session.queued_spawnAll, idle]
  | round r timeout =>
    simp only [serve, Roster.fanOut, unborrowed, Bool.and_false, Bool.false_eq_true, if_false,
      Session.beginQueued_of_idle idle, ite_self]
    rw [Session.queued_awaitAll, Session.queued_spawnAll, idle]
  | shutdown =>
    rw [serve, Session.shutdown]
    split
    · exact idle
    · exact idle
  | pass ms => rw [serve, Session.advance, Session.beginQueued_of_idle idle,
      (w.session.runTo_parts _).2, idle]
  | switch id on => exact idle

theorem dark_serve_shutdown (owned : w.workers.isOwned = true) (idle : w.session.queued = []) :
    (w.serve (α := α) .shutdown).1.Dark ∧
      (w.serve (α := α) .shutdown).1.session.world = w.session.world := by
  obtain ⟨-, unborrowed⟩ := Workers.live_of_owned owned
  rw [serve, Session.shutdown, if_pos owned]
  exact ⟨⟨(Workers.down_shutdown unborrowed).1, rfl, idle⟩, rfl⟩

/-- A pool that was owned runs on or is down. -/
theorem dark_serveAll (owned : w.workers.isOwned = true) (idle : w.session.queued = [])
    (requests : List (Request α)) :
    (w.serveAll requests).1.workers.isOwned = true ∧ (w.serveAll requests).1.session.queued = [] ∨
      (w.serveAll requests).1.Dark := by
  induction requests generalizing w with
  | nil => exact .inl ⟨owned, idle⟩
  | cons request rest ih =>
    rw [serveAll_cons]
    by_cases last : request = .shutdown
    · subst last
      exact .inr ((dark_serve_shutdown owned idle).1.serveAll rest).1
    · obtain ⟨-, unborrowed⟩ := Workers.live_of_owned owned
      exact ih ((w.isOwned_serve request).mpr ⟨owned, last⟩) (queued_serve unborrowed idle request)

/-- From a shutdown of an owned pool on, all is dark, and no check begins, ends or moves a cell. -/
theorem dark_of_shutdown (owned : w.workers.isOwned = true) (idle : w.session.queued = [])
    (early late : List (Request α)) :
    (w.serveAll (early ++ .shutdown :: late)).1.Dark ∧
      (w.serveAll (early ++ .shutdown :: late)).1.session.world.tally =
        (w.serveAll early).1.session.world.tally ∧
      (w.serveAll (early ++ .shutdown :: late)).1.session.world.cell =
        (w.serveAll early).1.session.world.cell := by
  rw [serveAll_append, serveAll_cons]
  have down : ((w.serveAll early).1.serve (α := α) .shutdown).1.Dark ∧
      ((w.serveAll early).1.serve (α := α) .shutdown).1.session.world =
        (w.serveAll early).1.session.world := by
    rcases dark_serveAll owned idle early with ⟨owned, idle⟩ | dark
    · exact dark_serve_shutdown owned idle
    · rw [dark.serve_shutdown]
      exact ⟨dark, rfl⟩
  obtain ⟨dark, tally, cell⟩ := down.1.serveAll late
  exact ⟨dark, tally.trans (by rw [down.2]), cell.trans (by rw [down.2])⟩

/-- Whatever is asked of a pool:

* Its size stays, and it is owned if it was and no shutdown was asked for.
* After a shutdown of an owned pool another one changes nothing, and a task is cancelled unbegun. A
  round reports each active check as cancelled and has no other effect; whatever else is asked for,
  no check begins or ends and no cell moves.
* A borrowed pool serves all else as if a shutdown had not been asked for. -/
theorem shutdown_respected (w : Workshop) (requests : List (Request α)) :
    let w' := (w.serveAll requests).1
    w'.workers.size = w.workers.size ∧
    (w'.workers.isOwned = true ↔ w.workers.isOwned = true ∧ .shutdown ∉ requests) ∧
    (w.workers.isOwned = true → w.session.queued = [] →
      ∀ early late, requests = early ++ .shutdown :: late →
        w'.session.world.tally = (w.serveAll early).1.session.world.tally ∧
        w'.session.world.cell = (w.serveAll early).1.session.world.cell ∧
        w'.serve (α := α) .shutdown = (w', .done) ∧
        (∀ task : String → α, w'.serve (.spawn task) = (w', .result none)) ∧
        (∀ name p, w'.serve (α := α) (.give name p) =
          (w', .jobs [⟨name, some (w'.session.now, .cancelled)⟩])) ∧
        ∀ r timeout, ∃ results,
          w'.serve (α := α) (.round r timeout) =
            ({ w' with session := w'.session.cancelAll (r.active w'.session.world) },
              .results results) ∧
          results.entries = (r.active w'.session.world).map fun e =>
            (e.1, .critical "health check task failed: task # was cancelled")) ∧
    (w.workers.isBorrowed = true → ∀ early late, requests = early ++ .shutdown :: late →
      let before := w.serveAll early
      let after := before.1.serveAll late
      w.serveAll requests = (after.1, before.2 ++ .done :: after.2) ∧
        w.serveAll (early ++ late) = (after.1, before.2 ++ after.2)) := by
  intro w'
  refine ⟨w.size_serveAll requests, w.isOwned_serveAll requests, ?_, ?_⟩
  · rintro owned idle early late rfl
    obtain ⟨dark, tally, cell⟩ := dark_of_shutdown owned idle early late
    refine ⟨tally, cell, dark.serve_shutdown, dark.serve_spawn, dark.serve_give, ?_⟩
    intro r timeout
    refine ⟨_, dark.serve_round r timeout, ?_⟩
    exact NameMap.entries_ofList (List.pairwise_map.mpr (r.ascending_active w'.session.world))
  · rintro borrowed early late rfl before after
    refine ⟨?_, w.serveAll_append early late⟩
    rw [serveAll_append, serveAll_cons,
      serve_shutdown_of_borrowed (isBorrowed_serveAll borrowed early)]

/-- The pool of a round with late checks is shut down twice. -/
theorem shutdown_respected_trio :
    let w : Workshop := ⟨⟨2, .running⟩, .fresh⟩
    let w' := (w.serveAll (α := String)
      [.spawn id, .round Roster.trio 100, .shutdown, .query, .shutdown]).1
    w'.workers.isOwned = false ∧ w'.session.world.tally "slow" = ⟨1, 0⟩ ∧
      (w'.serve (.spawn id)).2 = .result none ∧
      ∃ results, (w'.serve (α := String) (.round Roster.trio 0)).2 = .results results ∧
        results.entries = ["db", "dies", "slow"].map fun name =>
          (name, .critical "health check task failed: task # was cancelled") := by
  intro w w'
  obtain ⟨-, owned, down, -⟩ := w.shutdown_respected
    [.spawn id, .round Roster.trio 100, .shutdown, .query, .shutdown]
  obtain ⟨tally, -, -, spawned, -, rounds⟩ := down rfl rfl [.spawn id, .round Roster.trio 100] _ rfl
  obtain ⟨results, served, entries⟩ := rounds Roster.trio 0
  have names : (Roster.trio.active w'.session.world).map (·.1) = ["db", "dies", "slow"] := by
    decide +kernel
  refine ⟨?_, ?_, congrArg Prod.snd (spawned id), results, congrArg Prod.snd served, ?_⟩
  · simpa using owned
  · rw [tally]
    decide +kernel
  · rw [entries, ← names, List.map_map]
    rfl

end Workshop

end HealthWatch
