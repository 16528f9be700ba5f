import HealthWatch.Proofs.Evaluation.Moves

/-!
# Translations

A `Translation` replaces checks, worlds and effects in such a way that to begin an allowed check and
to end it are replaced alike. A session of allowed checks is then translated step by step:
`Translation.play?` says that the translated history, in the translated session, gives the same
answers and leaves the translation of what is left behind.
-/

namespace HealthWatch

def Course.mapEffects (f : List Effect → List Effect) : Course → Course
  | .never => .never
  | .ends after effects outcome => .ends after (f effects) outcome

structure Translation where
  /-- The checks that are carried over. -/
  allowed : Probe → Prop
  probe : Probe → Probe
  world : World → World
  effects : List Effect → List Effect
  begin : ∀ {p : Probe}, allowed p → ∀ w : World,
    (probe p).begin (world w) = (world (p.begin w).1, (p.begin w).2.mapEffects effects)
  applyAll : ∀ (ended : List Effect) (w : World),
    Effect.applyAll (world w) (effects ended) = world (Effect.applyAll w ended)
  events : ∀ ended : List Effect,
    (effects ended).filterMap Effect.event? = ended.filterMap Effect.event?
  reply : ∀ (p : Probe) (outcome : Outcome), (probe p).reply outcome = p.reply outcome
  isActive : ∀ (p : Probe) (w : World), (probe p).isActive (world w) = p.isActive w
  switch : ∀ (w : World) (id : String) (on : Bool),
    (world w).switch id on = world (w.switch id on)

theorem stable_queued (allowed : Probe → Prop) : Stable allowed fun _ _ => True where
  begin := fun _ _ _ => trivial
  conclude := fun _ _ => trivial
  drop := fun _ _ => trivial
  switch := fun _ _ _ => trivial

namespace Translation

variable (T : Translation)

def course (c : Course) : Course :=
  c.mapEffects T.effects

def pending (q : Pending) : Pending :=
  ⟨q.due, T.effects q.effects⟩

def session (s : Session) : Session where
  now := s.now
  world := T.world s.world
  pending := s.pending.map T.pending
  queued := s.queued.map T.probe
  reports := s.reports

def checks (checks : List (String × Probe)) : List (String × Probe) :=
  checks.map fun e => (e.1, T.probe e.2)

def roster (r : Roster) : Roster :=
  ⟨r.checks.map fun _ p => T.probe p⟩

def move : Move → Move
  | .begin p => .begin (T.probe p)
  | .check p => .check (T.probe p)
  | .safeCheck p => .safeCheck (T.probe p)
  | .evaluate r e => .evaluate (T.roster r) e
  | .switch id on => .switch id on
  | .shutdown workers => .shutdown workers
  | .advance ms => .advance ms

abbrev Ready (s : Session) : Prop :=
  s.Keeps T.allowed fun _ _ => True

variable {T} {s : Session} {p : Probe}

/-! ### One check -/

theorem conclude (s : Session) (time : Nat) (ended : List Effect) :
    (T.session s).conclude time (T.effects ended) = T.session (s.conclude time ended) := by
  simp only [Session.conclude, session, T.applyAll, T.events]

theorem launch (ours : T.allowed p) (s : Session) :
    (T.session s).launch (T.probe p) = (T.session (s.launch p).1, T.course (s.launch p).2) := by
  rw [Session.launch_eq, Session.launch_eq]
  simp only [session, T.begin ours]
  rcases (p.begin s.world).2 with _ | ⟨_ | after, ended, outcome⟩
  · rfl
  · exact congrArg (·, _) (conclude ({ s with world := (p.begin s.world).1 } : Session) s.now ended)
  · simp [course, Course.mapEffects, pending]

theorem filter_pending (s : Session) (still : Nat → Bool) :
    ((T.session s).pending.filter fun q => still q.due) =
      (s.pending.filter fun q => still q.due).map T.pending := by
  rw [session, List.filter_map]
  rfl

theorem runTo (s : Session) (time : Nat) :
    (T.session s).runTo time = T.session (s.runTo time) := by
  have due : (T.session s).dueBy time = (s.dueBy time).map T.pending := by
    rw [Session.dueBy, Session.dueBy, filter_pending s (· ≤ time)]
    exact (List.map_mergeSort (f := T.pending) fun _ _ _ _ => rfl).symm
  have folded : ((s.dueBy time).map T.pending).foldl
      (fun u q => u.conclude q.due q.effects) (T.session s) =
      T.session ((s.dueBy time).foldl (fun u q => u.conclude q.due q.effects) s) := by
    rw [List.foldl_map]
    exact List.foldl_hom _ fun u q => conclude u q.due q.effects
  simp only [Session.runTo, due, folded, filter_pending s fun due => !(due ≤ time)]
  rfl

theorem beginQueued (ready : T.Ready s) :
    (T.session s).beginQueued = T.session s.beginQueued := by
  have folded : ∀ (queued : List Probe), (∀ q ∈ queued, T.allowed q) → ∀ u : Session,
      (queued.map T.probe).foldl (fun u q => (u.launch q).1) (T.session u) =
        T.session (queued.foldl (fun (u : Session) q => (u.launch q).1) u) := by
    intro queued ours
    induction queued with
    | nil => exact fun _ => rfl
    | cons q rest ih =>
      obtain ⟨first, later⟩ := List.forall_mem_cons.mp ours
      intro u
      rw [List.map_cons, List.foldl_cons, launch first]
      exact ih later _
  exact folded s.queued ready.queued { s with queued := [] }

theorem advance (ready : T.Ready s) (ms : Nat) :
    (T.session s).advance ms = T.session (s.advance ms) := by
  rw [Session.advance, beginQueued ready, runTo]
  rfl

theorem waited (ready : T.Ready s) (w : World) (after : Nat) (ended : List Effect) :
    (T.session s).waited (T.world w) after (T.effects ended) =
      T.session (s.waited w after ended) := by
  unfold Session.waited
  split
  · exact conclude ({ s with world := w } : Session) s.now ended
  · have begun : T.Ready
        { s with world := w, pending := s.pending ++ [⟨s.now + after, ended⟩] } :=
      ⟨trivial, ready.queued⟩
    rw [← advance begun]
    simp only [session, List.map_append]
    rfl

theorem check (ours : T.allowed p) (ready : T.Ready s) :
    (T.session s).check (T.probe p) = (s.check p).map fun a => (T.session a.1, a.2) := by
  have later : T.Ready (s.launch p).1 := (stable_queued T.allowed).launch ours ready
  simp only [Session.check, launch ours]
  generalize s.launch p = launched at later
  rcases launched with ⟨u, _ | ⟨after, ended, outcome⟩⟩
  · rfl
  · by_cases atOnce : after = 0
    · simp [course, Course.mapEffects, atOnce]
    · simp [course, Course.mapEffects, atOnce, advance later]

theorem safeCheck (ours : T.allowed p) (ready : T.Ready s) :
    (T.session s).safeCheck (T.probe p) = (s.safeCheck p).map fun a => (T.session a.1, a.2) := by
  simp [Session.safeCheck, check ours ready, T.reply, Function.comp_def]

/-! ### Rounds -/

variable {all : List (String × Probe)}

theorem job (now : Nat) (name : String) (p : Probe) (c : Course) :
    Job.ofCourse now name (T.probe p) (T.course c) = Job.ofCourse now name p c := by
  cases c <;> simp [Job.ofCourse, course, Course.mapEffects, T.reply]

theorem launchAll (ours : ∀ e ∈ all, T.allowed e.2) (s : Session) :
    (T.session s).launchAll (T.checks all) =
      (T.session (s.launchAll all).1, (s.launchAll all).2) := by
  induction all generalizing s with
  | nil => rfl
  | cons e rest ih =>
    obtain ⟨first, later⟩ := List.forall_mem_cons.mp ours
    have next := ih later (s.launch e.2).1
    simp only [checks] at next
    simp only [checks, List.map_cons, Session.launchAll, launch first, next, job]
    rfl

theorem spawnAll (ours : ∀ e ∈ all, T.allowed e.2) (s : Session) (workers : Workers) :
    (T.session s).spawnAll workers (T.checks all) =
      (T.session (s.spawnAll workers all).1, (s.spawnAll workers all).2) := by
  unfold Session.spawnAll
  split
  · exact launchAll ours s
  · simp [checks, Function.comp_def, session]

theorem cutAt (s : Session) (workers : Workers) (time : Nat) (jobs : List Job) :
    (T.session s).cutAt workers time jobs =
      (T.session (s.cutAt workers time jobs).1, (s.cutAt workers time jobs).2) := by
  unfold Session.cutAt
  split
  · rw [Session.giveUpAfter, filter_pending s (· ≤ time)]
    rfl
  · rfl

theorem post (s : Session) (all : List (String × Probe)) :
    (T.session s).post (T.checks all) = (T.session (s.post all).1, (s.post all).2) := by
  simp [Session.post, checks, session, Function.comp_def]

theorem awaitAll (s : Session) (start timeout kept : Nat) (jobs : List Job) :
    (T.session s).awaitAll start timeout kept jobs =
      (T.session (s.awaitAll start timeout kept jobs).1,
        (s.awaitAll start timeout kept jobs).2) := by
  simp only [Session.awaitAll, runTo]
  rfl

variable {r : Roster}

theorem active (r : Roster) (s : Session) :
    (T.roster r).active (T.session s).world = T.checks (r.active s.world) := by
  simp [Roster.active, roster, session, NameMap.map, checks, List.filter_map, Function.comp_def,
    T.isActive]

theorem get? (r : Roster) (name : String) : (T.roster r).get? name = (r.get? name).map T.probe :=
  r.checks.find?_map _ name

theorem runFrom (ours : ∀ e ∈ all, T.allowed e.2) (ready : T.Ready s) (acc : Results) :
    Roster.runFrom (T.session s) acc (T.checks all) =
      (Roster.runFrom s acc all).map fun a => (T.session a.1, a.2) := by
  induction all generalizing s acc with
  | nil => rfl
  | cons e rest ih =>
    obtain ⟨first, later⟩ := List.forall_mem_cons.mp ours
    have world : (T.session s).world = T.world s.world := rfl
    have cons : T.checks (e :: rest) = (e.1, T.probe e.2) :: T.checks rest := rfl
    rw [cons, Roster.runFrom, Roster.runFrom, world, T.isActive, safeCheck first ready,
      ih later ready]
    split
    · cases ended : s.safeCheck e.2 with
      | none => rfl
      | some told =>
        have next : T.Ready told.1 := (stable_queued T.allowed).safeCheck first ready ended
        rcases told with ⟨u, v | text⟩
        · exact ih later next _
        · rfl
    · rfl

theorem fanOut (ours : ∀ e ∈ r.checks.entries, T.allowed e.2) (ready : T.Ready s)
    (workers : Workers) (timeout : Nat) :
    (T.roster r).fanOut (T.session s) workers timeout =
      (T.session (r.fanOut s workers timeout).1, (r.fanOut s workers timeout).2) := by
  have inside : ∀ e ∈ r.active s.world, T.allowed e.2 :=
    fun e member => ours e (List.mem_filter.mp member).1
  unfold Roster.fanOut
  rw [active]
  dsimp only
  split
  · exact post s _
  · have begun : (if (T.checks (r.active s.world)).isEmpty then T.session s
        else (T.session s).beginQueued) =
        T.session (if (r.active s.world).isEmpty then s else s.beginQueued) := by
      simp only [checks, List.isEmpty_map, beginQueued ready]
      split <;> rfl
    rw [begun, spawnAll inside]
    exact awaitAll _ s.now timeout s.reports.length _

theorem fanOutCut (ours : ∀ e ∈ r.checks.entries, T.allowed e.2) (s : Session)
    (workers : Workers) (timeout time : Nat) :
    (T.roster r).fanOutCut (T.session s) workers timeout time =
      (T.session (r.fanOutCut s workers timeout time).1,
        (r.fanOutCut s workers timeout time).2) := by
  have inside : ∀ e ∈ r.active s.world, T.allowed e.2 :=
    fun e member => ours e (List.mem_filter.mp member).1
  unfold Roster.fanOutCut
  rw [active]
  dsimp only
  rw [spawnAll inside, cutAt]
  exact awaitAll _ s.now timeout s.reports.length _

theorem evaluate? (ours : ∀ e ∈ r.checks.entries, T.allowed e.2) (ready : T.Ready s)
    (e : Evaluation) :
    (T.roster r).evaluate? (T.session s) e =
      (r.evaluate? s e).map fun a => (T.session a.1, a.2) := by
  cases e with
  | run =>
    have round := runFrom ours ready .empty
    simp only [Roster.evaluate?, Roster.run, Option.map_map, Function.comp_def]
    exact (congrArg _ round).trans (by simp [Function.comp_def])
  | runOne name =>
    simp only [Roster.evaluate?, Roster.runOne, get?]
    cases found : r.get? name with
    | none => rfl
    | some p =>
      have allowed := ours _ (NameMap.mem_of_find? found)
      simp [safeCheck allowed ready, Function.comp_def]
  | fanOut workers timeout => simp [Roster.evaluate?, fanOut ours ready]
  | fanOutCut workers timeout time => simp [Roster.evaluate?, fanOutCut ours]

/-! ### Histories -/

theorem move? {m : Move} (ours : ∀ p ∈ m.checks, T.allowed p) (ready : T.Ready s) :
    (T.session s).move? (T.move m) = (s.move? m).map fun a => (T.session a.1, a.2) := by
  cases m with
  | begin p =>
    have allowed := ours p List.mem_cons_self
    simp [Session.move?, move, launch allowed]
  | check p =>
    have allowed := ours p List.mem_cons_self
    simp [Session.move?, move, check allowed ready, Function.comp_def]
  | safeCheck p =>
    have allowed := ours p List.mem_cons_self
    simp [Session.move?, move, safeCheck allowed ready, Function.comp_def]
  | evaluate r e => exact evaluate? (fun e member => ours e.2 (List.mem_map_of_mem member)) ready e
  | switch id on =>
    simp only [Session.move?, move, Session.switch, session, T.switch, Option.map_some]
  | shutdown workers =>
    simp only [Session.move?, move, Session.shutdown]
    split <;> rfl
  | advance ms => simp [Session.move?, move, advance ready]

theorem play? {h : List Move} (ours : ∀ m ∈ h, ∀ p ∈ m.checks, T.allowed p) (ready : T.Ready s) :
    (T.session s).play? (h.map T.move) = (s.play? h).map fun a => (T.session a.1, a.2) := by
  induction h generalizing s with
  | nil => rfl
  | cons m rest ih =>
    obtain ⟨first, later⟩ := List.forall_mem_cons.mp ours
    rw [List.map_cons, Session.play?, Session.play?, move? first ready]
    cases moved : s.move? m with
    | none => rfl
    | some a =>
      have next : T.Ready a.1 := (stable_queued T.allowed).move first ready moved
      simp [ih later next, Function.comp_def]

end Translation

end HealthWatch
