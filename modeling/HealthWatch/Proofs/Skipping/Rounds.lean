import HealthWatch.Proofs.Derived.Phase
import HealthWatch.Proofs.Fanout.Background
import HealthWatch.Proofs.Skipping.Order

/-!
# The reports of one caller

What the rounds of one caller report of a skipping check, each begun after the last one has
returned. Behind a report stands a run of the check inside, and the run behind a later report began
later too, or ended no earlier (`reports_in_order`): only a run that outlives its round brings an
older verdict back.
-/

namespace HealthWatch

open Session (callsOf launched)

/-! ### Runs -/

/-- The call has run the check inside, which told a verdict at a time. -/
structure Call.Ran (key : Cell.Key) (skips : Nat) (inner : Probe) (c : Call) (v : Verdict)
    (due : Nat) : Prop where
  probe : c.probe = .skip key skips inner
  sought : (c.world.cell key).replay? skips = none
  told : ∃ after effects outcome, c.course = .ends after effects outcome ∧
    c.probe.reply outcome = .verdict v ∧ due = c.at_ + after

variable {key : Cell.Key} {skips : Nat} {inner : Probe} {v w : Verdict}

namespace Call

variable {c : Call} {due : Nat}

/-- What a run tells is stored when it ends. -/
theorem Ran.stores (ran : c.Ran key skips inner v due) (guarded : inner.Guarded) :
    ∃ effects, c.ending? = some ⟨due, effects⟩ ∧ .stored key v ∈ effects := by
  obtain ⟨after, effects, outcome, course, reply, rfl⟩ := ran.told
  have stored : c.course = (inner.begin (c.world.turn key)).2.stored key inner := by
    rw [Call.course, ran.probe, Probe.begin_of_due ran.sought]
  rw [ran.probe] at reply
  cases inside : (inner.begin (c.world.turn key)).2 with
  | never =>
    rw [stored, inside] at course
    cases course
  | ends time more result =>
    rw [stored, inside, Course.stored, guarded result] at course
    obtain ⟨rfl, rfl, rfl⟩ := Course.ends.inj course
    obtain rfl := Reply.verdict.inj reply
    refine ⟨more ++ [.stored key result.caught], ?_, by simp [Outcome.caught]⟩
    rw [ending?, stored, inside, Course.stored, guarded result]

/-- What is stored was told by a run. -/
theorem ran_of_stored (probe : c.probe = .skip key skips inner) (outside : .cell key ∉ inner.places)
    {q : Pending} (ends : c.ending? = some q) (stored : .stored key v ∈ q.effects) :
    c.Ran key skips inner v q.due := by
  unfold ending? at ends
  split at ends
  · cases ends
  rename_i after effects outcome course
  obtain rfl := Option.some.inj ends
  have begun : c.course = ((Probe.skip key skips inner).begin c.world).2 := by
    rw [Call.course, probe]
  cases found : (c.world.cell key).replay? skips with
  | some old =>
    rw [begun, Probe.begin_of_replay found] at course
    obtain ⟨-, rfl, -⟩ := Course.ends.inj course
    cases stored
  | none =>
    refine ⟨probe, found, after, effects, outcome, course, ?_, rfl⟩
    have within := inner.within_begin (c.world.turn key)
    rw [begun, Probe.begin_of_due found] at course
    cases inside : (inner.begin (c.world.turn key)).2 with
    | never =>
      rw [inside] at course
      cases course
    | ends time more result =>
      rw [inside] at course within
      have quiet : .stored key v ∉ more := fun member => outside (within _ member _ rfl)
      rw [Course.stored] at course
      split at course
      · rename_i old reply
        obtain ⟨rfl, rfl, rfl⟩ := Course.ends.inj course
        have this := (List.mem_append.mp stored).resolve_left quiet
        obtain ⟨-, rfl⟩ := Effect.stored.inj (List.mem_singleton.mp this)
        rw [probe]
        rfl
      · obtain ⟨rfl, rfl, rfl⟩ := Course.ends.inj course
        exact absurd stored quiet

end Call

/-! ### What was stored last -/

theorem Effect.stored_applyAll (effects : List Effect) (u : World) (key : Cell.Key) :
    ((∀ x, .stored key x ∉ effects) ∧
      ((applyAll u effects).cell key).stored = (u.cell key).stored) ∨
    ∃ x, .stored key x ∈ effects ∧ ((applyAll u effects).cell key).stored = some x := by
  induction effects generalizing u with
  | nil => exact .inl ⟨fun _ => List.not_mem_nil, rfl⟩
  | cons e rest ih =>
    rcases ih (e.apply u) with ⟨silent, same⟩ | ⟨x, member, stored⟩
    · by_cases writes : ∃ x, e = .stored key x
      · obtain ⟨x, rfl⟩ := writes
        exact .inr ⟨x, List.mem_cons_self, same.trans (by simp [apply, World.store])⟩
      · refine .inl ⟨fun x member => ?_, same.trans ?_⟩
        · rcases List.mem_cons.mp member with rfl | later
          · exact writes ⟨x, rfl⟩
          · exact silent x later
        · cases e with
          | finished id => rfl
          | overran limit => rfl
          | stored other x =>
            have different : key ≠ other := fun same => writes ⟨x, same ▸ rfl⟩
            simp [apply, World.store, different]
    · exact .inr ⟨x, List.mem_cons_of_mem e member, stored⟩

/-- Of ends in the order of time, the last one that stores a verdict is what is found. -/
theorem last_stored {order : List Pending} {u : World} (sorted : order.Pairwise (·.due ≤ ·.due))
    (empty : (u.cell key).stored = none)
    (kept : ((Effect.applyAll u (order.flatMap (·.effects))).cell key).stored = some w) :
    ∃ q ∈ order, .stored key w ∈ q.effects ∧
      ∀ q' ∈ order, ∀ x, .stored key x ∈ q'.effects → q'.due ≤ q.due := by
  induction order using List.reverseRecOn with
  | nil => simp [Effect.applyAll, empty] at kept
  | append_singleton front q ih =>
    obtain ⟨before, -, below⟩ := List.pairwise_append.mp sorted
    rw [List.flatMap_append, List.flatMap_singleton, Effect.applyAll_append] at kept
    rcases Effect.stored_applyAll q.effects (Effect.applyAll u (front.flatMap (·.effects))) key with
      ⟨silent, same⟩ | ⟨x, member, stored⟩
    · obtain ⟨last, listed, stores, latest⟩ := ih before (same.symm.trans kept)
      refine ⟨last, List.mem_append_left _ listed, stores, fun q' member x writes => ?_⟩
      rcases List.mem_append.mp member with earlier | this
      · exact latest q' earlier x writes
      · exact absurd (List.mem_singleton.mp this ▸ writes) (silent x)
    · obtain rfl := Option.some.inj (stored.symm.trans kept)
      refine ⟨q, List.mem_append_right _ List.mem_cons_self, member, fun q' listed _ _ => ?_⟩
      rcases List.mem_append.mp listed with earlier | this
      · exact below q' earlier q List.mem_cons_self
      · rw [List.mem_singleton.mp this]

/-- What a cell holds after a passage was stored by a call of it, and no other call that has stored
a verdict ended later. -/
theorem Passage.stored_last {s t : Session} {log : List Call} (passage : Passage s log t)
    (free : s.outstanding (.cell key) = []) (empty : (s.world.cell key).stored = none)
    (kept : (t.world.cell key).stored = some w) :
    ∃ (n : Nat) (c : Call) (q : Pending), log[n]? = some c ∧ c.ending? = some q ∧ q.due ≤ t.now ∧
      .stored key w ∈ q.effects ∧
      ∀ c' ∈ log, ∀ q', c'.ending? = some q' → q'.due ≤ t.now →
        ∀ x, .stored key x ∈ q'.effects → q'.due ≤ q.due := by
  obtain ⟨order, all, sorted, same⟩ := passage.ended
  have silent : ∀ q ∈ s.pending, ∀ x, .stored key x ∉ q.effects := by
    intro q member x stores
    have untouched : q.touches (.cell key) = false := by
      simpa using List.filter_eq_nil_iff.mp free q member
    exact Pending.touches_eq_false.mp untouched _ stores rfl
  have fromLog : ∀ q ∈ order, ∀ x, .stored key x ∈ q.effects →
      q ∈ log.filterMap Call.ending? ∧ q.due ≤ t.now := by
    intro q member x stores
    obtain ⟨listed, due⟩ := List.mem_filter.mp (all.mem_iff.mp member)
    have new := (List.mem_append.mp listed).resolve_left fun old => silent q old x stores
    exact ⟨new, of_decide_eq_true due⟩
  rw [same.stored] at kept
  obtain ⟨q, member, stores, latest⟩ := last_stored sorted empty kept
  obtain ⟨new, due⟩ := fromLog q member w stores
  obtain ⟨c, begun, ends⟩ := List.mem_filterMap.mp new
  obtain ⟨n, present⟩ := List.mem_iff_getElem?.mp begun
  refine ⟨n, c, q, present, ends, due, stores, fun c' begun' q' ends' due' x stores' => ?_⟩
  refine latest q' (all.mem_iff.mpr (List.mem_filter.mpr ⟨?_, decide_eq_true due'⟩)) x stores'
  exact List.mem_append_right _ (List.mem_filterMap.mpr ⟨c', begun', ends'⟩)

/-! ### The calls of a round -/

namespace Session

variable {s u : Session} {n : Nat} {c : Call}

theorem callsOf_append (s : Session) (checks more : List Probe) :
    s.callsOf (checks ++ more) = s.callsOf checks ++ (s.launched checks).callsOf more := by
  induction checks generalizing s with
  | nil => rfl
  | cons p rest ih => exact congrArg (_ :: ·) (ih (s.launch p).1)

/-- A call begins in the session to which the calls before it have led. -/
theorem callsOf_reached (timely : s.Timely) {checks : List Probe}
    (present : (s.callsOf checks)[n]? = some c) :
    ∃ u, Passage s ((s.callsOf checks).take n) u ∧ u.now = c.at_ ∧ u.world = c.world := by
  induction checks generalizing s n with
  | nil => cases present
  | cons p rest ih =>
    cases n with
    | zero =>
      obtain rfl := Option.some.inj present
      exact ⟨s, .of_same timely rfl rfl rfl rfl, rfl, rfl⟩
    | succ n =>
      have first := Passage.launch timely p
      obtain ⟨u, passage, same⟩ := ih first.timely present
      exact ⟨u, first.trans passage, same⟩

/-- Behind each job stands a call. -/
theorem call_of_job {checks : List (String × Probe)} {j : Job}
    (member : j ∈ (s.launchAll checks).2) :
    ∃ (n : Nat) (e : String × Probe) (c : Call), checks[n]? = some e ∧
      (s.callsOf (checks.map (·.2)))[n]? = some c ∧ c.probe = e.2 ∧
      j = .ofCourse s.now e.1 e.2 c.course := by
  induction checks generalizing s with
  | nil => cases member
  | cons e rest ih =>
    rw [launchAll] at member
    rcases List.mem_cons.mp member with rfl | later
    · exact ⟨0, e, _, rfl, rfl, rfl, by rw [Call.course, launch_course]⟩
    · obtain ⟨n, f, c, present, begun, probe, rfl⟩ := ih later
      rw [now_launch]
      exact ⟨n + 1, f, c, present, begun, probe, rfl⟩

end Session

namespace Roster

variable {r : Roster} {workers : Workers} {timeout : Nat} {name : String} {p : Probe}
  {s u : Session}

/-- Behind a verdict that is no delay stands a job of the round. -/
theorem job_of_report (live : workers.isLive = true)
    (told : (r.fanOut u workers timeout).2.find? name = some v) (inTime : v ≠ .timedOut) :
    r.active u.world ≠ [] ∧ ¬(timeout = 0 ∧ workers.isBorrowed = true) ∧
      ∃ j ∈ (u.beginQueued.launchAll (r.active u.world)).2, j.name = name ∧
        (j.seen (u.now + timeout)).verdict = v := by
  have entry := NameMap.mem_of_find? told
  have waits : ¬(timeout = 0 ∧ workers.isBorrowed = true) := by
    intro posted
    rw [fanOut_eq_post posted, entries_post u _ (r.ascending_active u.world)] at entry
    obtain ⟨e, -, same⟩ := List.mem_map.mp entry
    exact inTime (Prod.mk.inj same).2.symm
  have something : r.active u.world ≠ [] := by
    intro nothing
    have listed : name ∈ (r.fanOut u workers timeout).2.names := List.mem_map_of_mem entry
    rw [names_fanOut, nothing] at listed
    cases listed
  have ascending :
      ((u.beginQueued.launchAll (r.active u.world)).2.map Job.name).Pairwise (· < ·) := by
    rw [Session.names_launchAll]
    exact List.pairwise_map.mpr (r.ascending_active u.world)
  rw [fanOut_launches something live waits, Session.entries_awaitAll ascending] at entry
  obtain ⟨j, job, same⟩ := List.mem_map.mp entry
  obtain ⟨named, seen⟩ := Prod.mk.inj same
  exact ⟨something, waits, j, job, named, seen⟩

theorem begins_fanOut (something : r.active u.world ≠ [])
    (waits : ¬(timeout = 0 ∧ workers.isBorrowed = true)) :
    u.begins (.evaluate r (.fanOut workers timeout)) =
      u.unqueued.callsOf u.queued ++ u.beginQueued.callsOf ((r.active u.world).map (·.2)) := by
  rw [Session.begins, Session.starts, if_neg (by simp [waits, something]), Session.callsOf_append]
  rfl

/-- What a round reports of a check, unless it was late, is what a call of the round has told, for
which the round has waited. -/
theorem call_of_report (live : workers.isLive = true) (ours : r.get? name = some p)
    (told : (r.fanOut u workers timeout).2.find? name = some v) (inTime : v ≠ .timedOut) :
    ∃ (n : Nat) (c : Call) (after : Nat) (effects : List Effect) (outcome : Outcome),
      (u.begins (.evaluate r (.fanOut workers timeout)))[n]? = some c ∧ c.probe = p ∧
      c.course = .ends after effects outcome ∧
      (Awaited.ended (.ofReply (p.reply outcome))).verdict = v ∧ c.at_ = u.now ∧
      u.now + after ≤ (r.fanOut u workers timeout).1.now := by
  obtain ⟨something, waits, j, job, named, seen⟩ := job_of_report live told inTime
  obtain ⟨t, how, ends, -, found, settled⟩ := Job.ended_of_seen (seen ▸ inTime)
  have waited : j.settled (u.now + timeout) ≤ (collect (u.now + timeout) u.now
      (u.beginQueued.launchAll (r.active u.world)).2).1 := Session.settled_le_collect job u.now
  obtain ⟨n, e, c, present, begun, probe, rfl⟩ := Session.call_of_job job
  obtain ⟨after, effects, outcome, course, rfl, rfl⟩ := Job.ends_ofCourse ends
  obtain rfl : e.1 = name := (Job.name_ofCourse ..).symm.trans named
  have active : e ∈ r.active u.world := List.mem_of_getElem? present
  obtain rfl : e.2 = p :=
    Option.some.inj ((NameMap.find?_of_mem (List.mem_filter.mp active).1).symm.trans ours)
  refine ⟨(u.unqueued.callsOf u.queued).length + n, c, after, effects, outcome, ?_, probe, course,
    found ▸ seen, ?_, ?_⟩
  · rw [begins_fanOut something waits, List.getElem?_append_right (Nat.le_add_right ..),
      Nat.add_sub_cancel_left]
    exact begun
  · rw [Session.at_callsOf _ _ c (List.mem_of_getElem? begun), Session.now_beginQueued]
  · rw [settled, Session.now_beginQueued] at waited
    rw [fanOut_launches something live waits, Session.now_awaitAll]
    exact waited

def visits (r : Roster) (workers : Workers) (rounds : List (Nat × Nat)) : List Move :=
  rounds.flatMap fun e => [.advance e.1, .evaluate r (.fanOut workers e.2)]

theorem calls_visits (s : Session) (e : Nat × Nat) (rest : List (Nat × Nat)) :
    s.calls (r.visits workers (e :: rest)) = s.begins (.advance e.1) ++
      ((s.advance e.1).begins (.evaluate r (.fanOut workers e.2)) ++
        (r.fanOut (s.advance e.1) workers e.2).1.calls (r.visits workers rest)) := rfl

/-- The session in which a round begins, and the calls up to then. -/
theorem round_of_report (live : workers.isLive = true) (timely : s.Timely)
    {rounds : List (Nat × Nat)} {i : Nat} {x : Option Verdict}
    (reported : (r.reports workers name s rounds)[i]? = some x) :
    ∃ (u : Session) (log : List Call) (timeout : Nat) (rest : List (Nat × Nat)),
      Passage s log u ∧ x = (r.fanOut u workers timeout).2.find? name ∧
      s.calls (r.visits workers rounds) = log ++
        (u.begins (.evaluate r (.fanOut workers timeout)) ++
          (r.fanOut u workers timeout).1.calls (r.visits workers rest)) ∧
      ∀ k, (r.reports workers name s rounds)[i + 1 + k]? =
        (r.reports workers name (r.fanOut u workers timeout).1 rest)[k]? := by
  induction rounds generalizing s i with
  | nil => cases reported
  | cons e rest ih =>
    have paused := timely.advance e.1
    cases i with
    | zero =>
      obtain rfl := Option.some.inj reported
      refine ⟨s.advance e.1, _, e.2, rest, paused, rfl, calls_visits s e rest, fun k => ?_⟩
      rw [show 0 + 1 + k = k + 1 by omega]
      rfl
    | succ i =>
      obtain ⟨first, -⟩ := paused.timely.fanOut r live e.2
      obtain ⟨u, log, timeout, later, passage, told, calls, follows⟩ := ih first.timely reported
      refine ⟨u, _, timeout, later, (paused.trans first).trans passage, told, ?_, fun k => ?_⟩
      · rw [calls_visits, calls, List.append_assoc, List.append_assoc]
      · rw [← follows k, show i + 1 + 1 + k = i + 1 + k + 1 by omega]
        rfl

theorem probe_of_asked {moves : List Move} {q : Probe} (asked : q ∈ s.asked moves) :
    ∃ m ∈ moves, q ∈ m.checks := by
  induction moves generalizing s with
  | nil => cases asked
  | cons m rest ih =>
    rw [Session.asked] at asked
    rcases List.mem_append.mp asked with now | later
    · refine ⟨m, List.mem_cons_self, ?_⟩
      unfold Session.asks at now
      split at now
      · exact (List.map_subset _ (List.filter_subset_self _)) now
      · cases now
    · cases moved : s.move? m with
      | none =>
        rw [moved] at later
        cases later
      | some a =>
        rw [moved] at later
        obtain ⟨m', member, inside⟩ := ih later
        exact ⟨m', List.mem_cons_of_mem m member, inside⟩

/-- The one check of a roster that has a cell is what writes to it. -/
theorem probe_of_calls (live : workers.isLive = true) (timely : s.Timely)
    (queued : ∀ q ∈ s.queued, .cell key ∉ q.places) (ours : r.get? name = some p)
    (others : ∀ e ∈ r.checks.entries, e.1 ≠ name → .cell key ∉ e.2.places)
    {rounds : List (Nat × Nat)} {c : Call} (begun : c ∈ s.calls (r.visits workers rounds))
    (writes : .cell key ∈ c.probe.places) : c.probe = p := by
  have undisturbed : ∀ m ∈ r.visits workers rounds, m.Undisturbed := by
    intro m member
    obtain ⟨e, -, inside⟩ := List.mem_flatMap.mp member
    simp only [List.mem_cons, List.not_mem_nil, or_false] at inside
    rcases inside with rfl | rfl
    · trivial
    · exact live
  obtain ⟨t, answers, -, -, asked⟩ := timely.play? undisturbed
  have probe : c.probe ∈ s.queued ++ s.asked (r.visits workers rounds) :=
    asked ▸ List.mem_append_left _ (List.mem_map_of_mem begun)
  rcases List.mem_append.mp probe with old | new
  · exact absurd writes (queued _ old)
  · obtain ⟨m, member, inside⟩ := probe_of_asked new
    obtain ⟨e, -, this⟩ := List.mem_flatMap.mp member
    simp only [List.mem_cons, List.not_mem_nil, or_false] at this
    rcases this with rfl | rfl
    · cases inside
    · obtain ⟨f, listed, same⟩ := List.mem_map.mp inside
      by_cases this : f.1 = name
      · have found := NameMap.find?_of_mem listed
        rw [this] at found
        rw [← same]
        exact Option.some.inj (found.symm.trans ours)
      · rw [← same] at writes
        exact absurd writes (others f listed this)

/-- One check of the roster keeps its verdicts in the cell, and nothing else has to do with it. No
verdict is stored there yet. -/
structure KeepsIn (r : Roster) (key : Cell.Key) (name : String) (skips : Nat) (inner : Probe)
    (s : Session) : Prop where
  ours : r.get? name = some (.skip key skips inner)
  others : ∀ e ∈ r.checks.entries, e.1 ≠ name → .cell key ∉ e.2.places
  outside : .cell key ∉ inner.places
  guarded : inner.Guarded
  timely : s.Timely
  spares : s.Spares (.cell key)
  empty : (s.world.cell key).stored = none

/-- A roster derived by skip counts is such a roster, if its series is new. -/
theorem keepsIn_withSkips {series : Nat} {counts : NameMap UInt32} {count : UInt32}
    (avoids : ∀ e ∈ r.checks.entries, e.2.Avoids series) (present : r.get? name = some p)
    (counted : counts.find? name = some count) (positive : 0 < count) (guarded : p.Guarded)
    (timely : s.Timely) (unused : s.Unused series) :
    (r.withSkips series counts).KeepsIn ⟨series, name⟩ name count.toNat p s where
  ours := get?_withSkips_counted present counted positive
  others := withSkips_others avoids
  outside := avoids _ (NameMap.mem_of_find? present) name
  guarded := guarded
  timely := timely
  spares := unused.spares name
  empty := by rw [unused.fresh name, Cell.fresh]

/-- What a call finds to repeat comes from the last run that has ended before. -/
theorem run_of_replay (live : workers.isLive = true)
    (keeps : r.KeepsIn key name skips inner s)
    {rounds : List (Nat × Nat)} {log later : List Call} (passage : Passage s log u)
    (calls : s.calls (r.visits workers rounds) = log ++
      (u.begins (.evaluate r (.fanOut workers timeout)) ++ later))
    {k : Nat} {c : Call}
    (begun : (u.begins (.evaluate r (.fanOut workers timeout)))[k]? = some c)
    (at_ : c.at_ = u.now) (found : (c.world.cell key).replay? skips = some v) :
    ∃ (n : Nat) (b : Call) (due : Nat),
      (log ++ u.begins (.evaluate r (.fanOut workers timeout)))[n]? = some b ∧
      b.Ran key skips inner v due ∧ due ≤ u.now ∧
      ∀ a ∈ log, ∀ x before, a.Ran key skips inner x before → before ≤ u.now → before ≤ due := by
  have kept : (c.world.cell key).stored = some v := by
    unfold Cell.replay? at found
    split at found
    · cases found
    · exact found
  -- The call begins after those before it, and finds what they have left.
  have idle : Passage u [] u.unqueued := .of_same passage.timely rfl rfl rfl rfl
  obtain ⟨w, onward, now, world⟩ := Session.callsOf_reached idle.timely begun
  have reached : Passage s (log ++ (u.begins (.evaluate r (.fanOut workers timeout))).take k) w :=
    passage.trans (idle.trans onward)
  obtain ⟨n, b, q, present, ends, due, stores, latest⟩ :=
    reached.stored_last keeps.spares.free keeps.empty (world ▸ kept)
  have same : w.now = u.now := now.trans at_
  have whole : log ++ u.begins (.evaluate r (.fanOut workers timeout)) =
      log ++ (u.begins (.evaluate r (.fanOut workers timeout))).take k ++
        (u.begins (.evaluate r (.fanOut workers timeout))).drop k := by
    rw [List.append_assoc, List.take_append_drop]
  have listed : (log ++ u.begins (.evaluate r (.fanOut workers timeout)))[n]? = some b := by
    rw [whole, List.getElem?_append_left (List.getElem?_eq_some_iff.mp present).1]
    exact present
  have among : b ∈ s.calls (r.visits workers rounds) := by
    rw [calls, ← List.append_assoc]
    exact List.mem_append_left _ (List.mem_of_getElem? listed)
  have own := probe_of_calls live keeps.timely keeps.spares.queued keeps.ours keeps.others among
    (Call.cells_of_ending? ends stores)
  refine ⟨n, b, q.due, listed, Call.ran_of_stored own keeps.outside ends stores, same ▸ due, ?_⟩
  intro a member x before ran inTime
  obtain ⟨effects, ends', stores'⟩ := ran.stores keeps.guarded
  exact latest a (List.mem_append_left _ member) _ ends' (same ▸ inTime) x stores'

/-- Behind a report stands a run: one of the round itself, or the last one to have ended before. -/
theorem run_of_report (live : workers.isLive = true)
    (keeps : r.KeepsIn key name skips inner s)
    {rounds : List (Nat × Nat)} {log later : List Call} (passage : Passage s log u)
    (calls : s.calls (r.visits workers rounds) = log ++
      (u.begins (.evaluate r (.fanOut workers timeout)) ++ later))
    (told : (r.fanOut u workers timeout).2.find? name = some v) (inTime : v ≠ .timedOut) :
    ∃ (n : Nat) (b : Call) (due : Nat),
      (log ++ u.begins (.evaluate r (.fanOut workers timeout)))[n]? = some b ∧
      b.Ran key skips inner v due ∧ due ≤ (r.fanOut u workers timeout).1.now ∧
      (log.length ≤ n ∨ ∀ a ∈ log, ∀ x before, a.Ran key skips inner x before → before ≤ u.now →
        before ≤ due) := by
  obtain ⟨k, c, after, effects, outcome, begun, probe, course, verdict, at_, waited⟩ :=
    call_of_report live keeps.ours told inTime
  obtain rfl : outcome.caught = v := verdict
  cases found : (c.world.cell key).replay? skips with
  | none =>
    have reply : c.probe.reply outcome = .verdict outcome.caught := by
      rw [probe]
      rfl
    refine ⟨log.length + k, c, c.at_ + after, ?_,
      ⟨probe, found, after, effects, outcome, course, reply, rfl⟩, at_ ▸ waited,
      .inl (Nat.le_add_right ..)⟩
    rw [List.getElem?_append_right (Nat.le_add_right ..), Nat.add_sub_cancel_left]
    exact begun
  | some old =>
    obtain rfl : old = outcome.caught := by
      rw [Call.course, probe, Probe.begin_of_replay found] at course
      obtain ⟨-, -, rfl⟩ := Course.ends.inj course
      rfl
    obtain ⟨n, b, due, run, ran, early, latest⟩ :=
      run_of_replay live keeps passage calls begun at_ found
    have onward := le_now_fanOut r u workers timeout
    exact ⟨n, b, due, run, ran, by omega, .inr latest⟩

/-- What the rounds of one caller report of a skipping check, each begun after the last one has
returned, comes from runs of the check inside. The run behind a later report is the same, or it
began later, or it ended no earlier. -/
theorem reports_in_order (live : workers.isLive = true)
    (keeps : r.KeepsIn key name skips inner s)
    {rounds : List (Nat × Nat)} {i j : Nat} (later : i < j)
    (first : (r.reports workers name s rounds)[i]? = some (some v)) (early : v ≠ .timedOut)
    (second : (r.reports workers name s rounds)[j]? = some (some w)) (early' : w ≠ .timedOut) :
    ∃ (m n : Nat) (a b : Call) (due due' : Nat), (s.calls (r.visits workers rounds))[m]? = some a ∧
      (s.calls (r.visits workers rounds))[n]? = some b ∧
      a.Ran key skips inner v due ∧ b.Ran key skips inner w due' ∧ (m ≤ n ∨ due ≤ due') := by
  obtain ⟨u, log, timeout, rest, passage, told, calls, follows⟩ :=
    round_of_report live keeps.timely first
  obtain ⟨round, -⟩ := passage.timely.fanOut r live timeout
  obtain ⟨m, a, due, run, ran, waited, -⟩ :=
    run_of_report live keeps passage calls told.symm early
  obtain ⟨k, rfl⟩ : ∃ k, j = i + 1 + k := ⟨j - (i + 1), by omega⟩
  rw [follows k] at second
  obtain ⟨u', log', timeout', rest', passage', told', calls', -⟩ :=
    round_of_report live round.timely second
  rw [calls', ← List.append_assoc, ← List.append_assoc] at calls
  obtain ⟨n, b, due', run', ran', -, latest⟩ :=
    run_of_report live keeps ((passage.trans round).trans passage') calls told'.symm early'
  have inside := (List.getElem?_eq_some_iff.mp run).1
  have inside' := (List.getElem?_eq_some_iff.mp run').1
  refine ⟨m, n, a, b, due, due', ?_, ?_, ran, ran', ?_⟩
  · rw [calls, List.append_assoc, List.getElem?_append_left inside]
    exact run
  · rw [calls, ← List.append_assoc, List.getElem?_append_left inside']
    exact run'
  · rcases latest with behind | latest
    · left
      rw [List.length_append] at behind
      omega
    · right
      have onward := passage'.now
      exact latest a (List.mem_append_left _ (List.mem_of_getElem? run)) v due ran (by omega)

end Roster

end HealthWatch
