import HealthWatch.Proofs.Fanout.Unseen

/-!
# Calls in the background

A call that has not ended when its round returns goes on. `background_calls` accounts for all calls
over any number of rounds and waits: which calls begin, that each ends once and at its own time,
whatever its round has told of it, and that a late end is noticed by the cells of its own check
only.
-/

namespace HealthWatch

/-- A round on a pool that runs, the passing of time, or a check that is switched on or off. -/
def Move.Undisturbed : Move → Prop
  | .evaluate _ (.fanOut workers _) => workers.isLive = true
  | .advance _ | .switch _ _ => True
  | _ => False

namespace Session

def starts (s : Session) : Move → List Probe
  | .evaluate r (.fanOut workers timeout) =>
    if timeout = 0 ∧ workers.isBorrowed = true ∨ r.active s.world = [] then []
    else s.queued ++ (r.active s.world).map (·.2)
  | .advance _ => s.queued
  | _ => []

def begins (s : Session) (m : Move) : List Call :=
  s.unqueued.callsOf (s.starts m)

/-- The checks that a move asks for: the active ones of a round. -/
def asks (s : Session) : Move → List Probe
  | .evaluate r (.fanOut _ _) => (r.active s.world).map (·.2)
  | _ => []

def calls (s : Session) : List Move → List Call
  | [] => []
  | m :: rest => s.begins m ++ (s.move? m).elim [] fun a => a.1.calls rest

def asked (s : Session) : List Move → List Probe
  | [] => []
  | m :: rest => s.asks m ++ (s.move? m).elim [] fun a => a.1.asked rest

variable {s t : Session} {r : Roster} {workers : Workers} {timeout : Nat} {m : Move}

theorem launched_append (s : Session) (checks more : List Probe) :
    s.launched (checks ++ more) = (s.launched checks).launched more :=
  List.foldl_append

theorem launchAll_eq_launched (s : Session) (checks : List (String × Probe)) :
    (s.launchAll checks).1 = s.launched (checks.map (·.2)) := by
  induction checks generalizing s with
  | nil => rfl
  | cons e rest ih => exact ih (s.launch e.2).1

theorem passage_awaitAll (s : Session) (timeout kept : Nat) (jobs : List Job) :
    Passage s [] (s.awaitAll s.now timeout kept jobs).1 := by
  have ran : Passage s [] (s.runTo (collect (s.now + timeout) s.now jobs).1) :=
    .runTo (le_collect ..)
  exact ran.trans (.of_same ran.timely rfl rfl rfl rfl)

/-- A round begins the calls that it is about, and those that were left to it. -/
theorem Timely.fanOut (timely : s.Timely) (r : Roster) (live : workers.isLive = true)
    (timeout : Nat) :
    let m := Move.evaluate r (.fanOut workers timeout)
    let t := (r.fanOut s workers timeout).1
    Passage s (s.begins m) t ∧ (s.begins m).map (·.probe) ++ t.queued = s.queued ++ s.asks m := by
  dsimp only [begins, starts, asks]
  rw [probes_callsOf]
  -- A round without time is left to the thread, and one that has no active check leaves it alone.
  by_cases posted : timeout = 0 ∧ workers.isBorrowed = true
  · rw [if_pos (.inl posted), Roster.fanOut_eq_post posted]
    exact ⟨.of_same timely rfl rfl rfl rfl, rfl⟩
  · by_cases nothing : r.active s.world = []
    · rw [if_pos (.inr nothing), Roster.fanOut_nothing nothing live posted, nothing]
      refine ⟨passage_awaitAll .., ?_⟩
      simp [Session.awaitAll, addReports, runTo_parts]
    · rw [if_neg (by simp [posted, nothing]), Roster.fanOut_launches nothing live posted,
        launchAll_eq_launched, beginQueued_eq_launched, ← launched_append]
      have begun := timely.launched_unqueued (s.queued ++ (r.active s.world).map (·.2))
      have waited := passage_awaitAll
        (s.unqueued.launched (s.queued ++ (r.active s.world).map (·.2))) timeout s.reports.length
        ((s.unqueued.launched s.queued).launchAll (r.active s.world)).2
      rw [now_launched] at waited
      refine ⟨begun.trans_quiet waited, ?_⟩
      simp [Session.awaitAll, addReports, runTo_parts, queued_launched, unqueued]

theorem Timely.advance (timely : s.Timely) (ms : Nat) :
    Passage s (s.begins (.advance ms)) (s.advance ms) := by
  have begun := timely.launched_unqueued s.queued
  have waited : Passage (s.unqueued.launched s.queued) [] (s.advance ms) := by
    refine .runTo ?_
    rw [now_launched]
    exact Nat.le_add_right ..
  exact begun.trans_quiet waited

theorem Timely.move? (timely : s.Timely) (undisturbed : m.Undisturbed) :
    ∃ t answer, s.move? m = some (t, answer) ∧ Passage s (s.begins m) t ∧
      (s.begins m).map (·.probe) ++ t.queued = s.queued ++ s.asks m := by
  cases m with
  | evaluate r e =>
    cases e with
    | fanOut workers timeout =>
      obtain ⟨passage, asked⟩ := timely.fanOut r undisturbed timeout
      exact ⟨_, _, rfl, passage, asked⟩
    | run | runOne | fanOutCut => cases undisturbed
  | advance ms =>
    refine ⟨_, _, rfl, timely.advance ms, ?_⟩
    rw [begins, starts, probes_callsOf, Session.advance, (runTo_parts _ _).2, (beginQueued_parts _).1]
    rfl
  | switch id on =>
    exact ⟨_, _, rfl, .of_same timely rfl rfl rfl rfl, (List.append_nil _).symm⟩
  | begin | check | safeCheck | shutdown => cases undisturbed

/-- Nothing of a history ever blocks, and all calls in it are accounted for. -/
theorem Timely.play? {moves : List Move} (timely : s.Timely)
    (undisturbed : ∀ m ∈ moves, m.Undisturbed) :
    ∃ t answers, s.play? moves = some (t, answers) ∧ Passage s (s.calls moves) t ∧
      (s.calls moves).map (·.probe) ++ t.queued = s.queued ++ s.asked moves := by
  induction moves generalizing s with
  | nil =>
    exact ⟨s, [], rfl, .of_same timely rfl rfl rfl rfl, (List.append_nil _).symm⟩
  | cons m rest ih =>
    obtain ⟨now, later⟩ := List.forall_mem_cons.mp undisturbed
    obtain ⟨u, answer, moved, first, asks⟩ := timely.move? now
    obtain ⟨t, answers, played, second, asked⟩ := ih first.timely later
    refine ⟨t, answer :: answers, ?_, ?_, ?_⟩
    · rw [Session.play?, moved, Option.bind_some, played]
      rfl
    · rw [calls, moved]
      exact first.trans second
    · rw [calls, Session.asked, moved]
      show (s.begins m ++ u.calls rest).map (·.probe) ++ t.queued =
        s.queued ++ (s.asks m ++ u.asked rest)
      rw [List.map_append, List.append_assoc, asked, ← List.append_assoc, asks, List.append_assoc]

namespace Alike

variable {hidden : Cell.Key → Prop}

theorem begins (alike : s.Alike hidden t) (undisturbed : m.Undisturbed)
    (clear : ∀ p ∈ m.checks, p.Clear hidden) :
    (t.begins m).map Call.sketch = (s.begins m).map Call.sketch := by
  have same : t.starts m = s.starts m ∧ ∀ p ∈ s.starts m, p.Clear hidden := by
    cases m with
    | evaluate r e =>
      cases e with
      | fanOut workers timeout =>
        have active : r.active t.world = r.active s.world :=
          List.filter_congr fun e _ => e.2.isActive_congr alike.world.off
        simp only [starts, active, alike.queued, true_and]
        split
        · nofun
        · intro p member
          rcases List.mem_append.mp member with old | new
          · exact alike.clear p old
          · obtain ⟨e, inside, rfl⟩ := List.mem_map.mp new
            exact clear e.2 (List.mem_map_of_mem (List.mem_filter.mp inside).1)
      | run | runOne | fanOutCut => cases undisturbed
    | advance ms => exact ⟨alike.queued, alike.clear⟩
    | switch id on => exact ⟨rfl, nofun⟩
    | begin | check | safeCheck | shutdown => cases undisturbed
  rw [Session.begins, Session.begins, same.1]
  exact (alike.unqueued.launched same.2).2

theorem move? (alike : s.Alike hidden t) (undisturbed : m.Undisturbed)
    (clear : ∀ p ∈ m.checks, p.Clear hidden) :
    ∃ s' t' answer, s.move? m = some (s', answer) ∧ t.move? m = some (t', answer) ∧
      s'.Alike hidden t' := by
  cases m with
  | evaluate r e =>
    cases e with
    | fanOut workers timeout =>
      obtain ⟨after, results⟩ := alike.fanOut undisturbed
        (fun e member => clear e.2 (List.mem_map_of_mem member)) timeout
      have told := congrArg (fun told => some ((r.fanOut t workers timeout).1,
        Answer.round (.results told))) results
      exact ⟨_, _, _, rfl, told, after⟩
    | run | runOne | fanOutCut => cases undisturbed
  | advance ms =>
    refine ⟨_, _, _, rfl, rfl, ?_⟩
    unfold Session.advance
    rw [alike.now]
    exact alike.beginQueued.runTo _
  | switch id on =>
    obtain ⟨now, ⟨off, begun, cell⟩, coming, queued, clear⟩ := alike
    exact ⟨_, _, _, rfl, rfl, now, ⟨by simp only [switch, World.switch, off], begun, cell⟩, coming,
      queued, clear⟩
  | begin | check | safeCheck | shutdown => cases undisturbed

/-- The same happens and is told in the whole history. -/
theorem play? {moves : List Move} (alike : s.Alike hidden t)
    (undisturbed : ∀ m ∈ moves, m.Undisturbed)
    (clear : ∀ p ∈ moves.flatMap Move.checks, p.Clear hidden) :
    ∃ s' t' answers, s.play? moves = some (s', answers) ∧ t.play? moves = some (t', answers) ∧
      (t.calls moves).map Call.sketch = (s.calls moves).map Call.sketch ∧ s'.Alike hidden t' := by
  induction moves generalizing s t with
  | nil => exact ⟨s, t, [], rfl, rfl, rfl, alike⟩
  | cons m rest ih =>
    obtain ⟨now, later⟩ := List.forall_mem_cons.mp undisturbed
    rw [List.flatMap_cons] at clear
    obtain ⟨ours, theirs⟩ := List.forall_mem_append.mp clear
    obtain ⟨u, u', answer, moved, moved', same⟩ := alike.move? now ours
    obtain ⟨v, v', answers, played, played', calls, alike'⟩ := ih same later theirs
    refine ⟨v, v', answer :: answers, ?_, ?_, ?_, alike'⟩
    · rw [Session.play?, moved, Option.bind_some, played]
      rfl
    · rw [Session.play?, moved', Option.bind_some, played']
      rfl
    · rw [Session.calls, Session.calls, moved, moved', List.map_append, List.map_append,
        alike.begins now ours]
      exact congrArg (_ ++ ·) calls

end Alike

/-! ### All of it -/

end Session

end HealthWatch
