import HealthWatch.Proofs.Heartbeat.Beat

/-!
# Notices

A `Notice` is a beat as its listeners hear of it. While at most one run of a heartbeat notifies at a
time, all deliveries and all errors belong to notices of the numbers 1, 2, 3 and so on, each told to
all listeners in their order but for the last one, which may still be under way (`Noted`).
-/

namespace HealthWatch

def Event.isError (e : Event) : Bool :=
  e.level = .error

namespace Listener

def failure? (l : Listener) (beat : Nat) (results : Results) : Option Event :=
  match l.response beat results with
  | .done => none
  | .failed problem => some (.listenerFailed beat problem)
  | .panicked => some (.listenerPanicked beat)

theorem errors_beatReport (results : Results) : (beatReport results).filter Event.isError = [] := by
  refine List.filter_eq_nil_iff.mpr fun e member => ?_
  unfold beatReport at member
  rcases List.mem_cons.mp member with rfl | line
  · simp [Event.isError, Event.level]
  · obtain ⟨entry, -, rfl⟩ := List.mem_map.mp line
    simp [Event.isError, Event.level]

theorem errors_responseReport (l : Listener) (beat : Nat) (results : Results) :
    (Desk.responseReport beat (l.response beat results)).filter Event.isError =
      (l.failure? beat results).toList := by
  unfold failure?
  cases l.response beat results <;> rfl

theorem errors_reports (l : Listener) (beat : Nat) (results : Results) :
    (l.reports beat results).filter Event.isError = (l.failure? beat results).toList := by
  rw [← errors_responseReport]
  cases l with
  | logging => exact (List.filter_append ..).trans (by rw [errors_beatReport, List.nil_append])
  | _ => rfl

end Listener

/-- A beat, and the listeners that have been told of it. -/
structure Notice where
  number : Nat
  results : Results
  told : List Listener

namespace Notice

def deliveries (n : Notice) : List Delivery :=
  n.told.map fun l => ⟨l.name, n.number, n.results⟩

def errors (n : Notice) : List Event :=
  n.told.filterMap fun l => l.failure? n.number n.results

def tell (n : Notice) (next : Listener) : Notice :=
  { n with told := n.told ++ [next] }

theorem deliveries_tell (n : Notice) (next : Listener) :
    (n.tell next).deliveries = n.deliveries ++ [⟨next.name, n.number, n.results⟩] :=
  List.map_append

theorem errors_tell (n : Notice) (next : Listener) :
    (n.tell next).errors = n.errors ++ (next.failure? n.number n.results).toList := by
  unfold errors tell
  rw [List.filterMap_append]
  cases said : next.failure? n.number n.results <;> simp [said]

end Notice

namespace Lifecycle

variable {listeners : List Listener} {l l' : Lifecycle} {past : List Notice}
  {current : Option Notice} {i : Nat}

def notifies (r : Run) : Bool :=
  match r.phase with
  | .notifying .. => true
  | _ => false

/-- At most one run notifies. -/
def Alone (l : Lifecycle) : Prop :=
  l.runs.Pairwise fun a b => (notifies a && notifies b) = false

instance (l : Lifecycle) : Decidable l.Alone :=
  inferInstanceAs (Decidable (l.runs.Pairwise _))

def Notifies (l : Lifecycle) (i : Nat) : Prop :=
  ∃ stopped beat results left, l.run? i = some ⟨stopped, .notifying beat results left⟩

theorem Alone.unique {j : Nat} (alone : l.Alone) (first : l.Notifies i) (second : l.Notifies j) :
    i = j := by
  obtain ⟨_, _, _, _, here⟩ := first
  obtain ⟨_, _, _, _, there⟩ := second
  obtain ⟨inside, here⟩ := List.getElem?_eq_some_iff.mp here
  obtain ⟨inside', there⟩ := List.getElem?_eq_some_iff.mp there
  have apart := List.pairwise_iff_getElem.mp alone
  rcases Nat.lt_trichotomy i j with before | same | behind
  · have never := apart i j inside inside' before
    simp [here, there, notifies] at never
  · exact same
  · have never := apart j i inside' inside behind
    simp [here, there, notifies] at never

/-- Where one run changes its phase, no other one can have notified. -/
theorem Alone.unique_setPhase {j : Nat} {phase : Phase} (alone : l.Alone) (ours : l.Notifies i)
    (theirs : (l.setPhase i phase).Notifies j) : i = j := by
  by_cases same : i = j
  · exact same
  · obtain ⟨stopped, beat, results, left, is⟩ := theirs
    rw [run?_setPhase_other same] at is
    exact alone.unique ours ⟨stopped, beat, results, left, is⟩

/-- What a heartbeat has told: the notices that are complete, and perhaps one that is under way. -/
structure Noted (listeners : List Listener) (l : Lifecycle) (past : List Notice)
    (current : Option Notice) : Prop where
  hearers : l.listeners = listeners
  numbers : past.map Notice.number = List.range' 1 l.beats
  complete : ∀ n ∈ past, n.told = listeners
  speaking : ∀ i stopped beat results left,
    l.run? i = some ⟨stopped, .notifying beat results left⟩ →
      ∃ n, current = some n ∧ n.number = beat ∧ n.number = l.beats + 1 ∧ n.results = results ∧
        n.told ++ left = listeners
  silent : (∀ i, ¬l.Notifies i) → current = none
  deliveries : l.desk.deliveries = (past ++ current.toList).flatMap Notice.deliveries
  errors : l.desk.reports.filter Event.isError = (past ++ current.toList).flatMap Notice.errors

theorem noted_idle : Noted listeners (idle listeners) [] none where
  hearers := rfl
  numbers := rfl
  complete := nofun
  speaking := by simp [idle, run?]
  silent _ := rfl
  deliveries := rfl
  errors := rfl

/-- A step that neither begins nor ends nor goes on with a notice. -/
theorem Noted.quiet (noted : Noted listeners l past current)
    (same : l'.listeners = l.listeners) (beats : l'.beats = l.beats) (desk : l'.desk = l.desk)
    (speaking : ∀ i beat results left,
      (∃ stopped, l'.run? i = some ⟨stopped, .notifying beat results left⟩) ↔
        ∃ stopped, l.run? i = some ⟨stopped, .notifying beat results left⟩) :
    Noted listeners l' past current where
  hearers := same.trans noted.hearers
  numbers := beats ▸ noted.numbers
  complete := noted.complete
  speaking := by
    intro i stopped beat results left present
    obtain ⟨stopped', was⟩ := (speaking i beat results left).mp ⟨stopped, present⟩
    exact beats ▸ noted.speaking i stopped' beat results left was
  silent := by
    intro quiet
    refine noted.silent fun i notifies => ?_
    obtain ⟨stopped, beat, results, left, present⟩ := notifies
    obtain ⟨stopped', is⟩ := (speaking i beat results left).mpr ⟨stopped, present⟩
    exact quiet i ⟨stopped', beat, results, left, is⟩
  deliveries := desk ▸ noted.deliveries
  errors := desk ▸ noted.errors

/-- A run changes its phase, and neither the old nor the new one is a notification. -/
theorem speaking_setPhase {r : Run} {phase : Phase} (present : l.run? i = some r)
    (before : ∀ beat results left, r.phase ≠ .notifying beat results left)
    (after : ∀ beat results left, phase ≠ .notifying beat results left)
    (j beat : Nat) (results : Results) (left : List Listener) :
    (∃ stopped, (l.setPhase i phase).run? j = some ⟨stopped, .notifying beat results left⟩) ↔
      ∃ stopped, l.run? j = some ⟨stopped, .notifying beat results left⟩ := by
  by_cases same : i = j
  · subst same
    constructor
    · rintro ⟨stopped, is⟩
      rw [run?_setPhase_self present] at is
      exact absurd (congrArg Run.phase (Option.some.inj is)) (after beat results left)
    · rintro ⟨stopped, was⟩
      obtain rfl := Option.some.inj (present.symm.trans was)
      exact absurd rfl (before beat results left)
  · rw [run?_setPhase_other same]

theorem Noted.collect (noted : Noted listeners l past current) {stopped : Bool} {results : Results}
    (present : l.run? i = some ⟨stopped, .beating results.names⟩)
    (alone : (l.setPhase i (.notifying (l.beats + 1) results l.listeners)).Alone) :
    Noted listeners (l.setPhase i (.notifying (l.beats + 1) results l.listeners)) past
      (some ⟨l.beats + 1, results, []⟩) := by
  have begun := run?_setPhase_self present (.notifying (l.beats + 1) results l.listeners)
  have ours : Notifies (l.setPhase i (.notifying (l.beats + 1) results l.listeners)) i :=
    ⟨_, _, _, _, begun⟩
  -- Another run that notified would still do so.
  have none_ : current = none := by
    apply noted.silent
    rintro j ⟨stopped', beat, results', left, was⟩
    by_cases same : i = j
    · subst same
      cases present.symm.trans was
    · exact same (alone.unique ours ⟨_, _, _, _, (run?_setPhase_other same _).trans was⟩)
  have told := noted.deliveries
  have said := noted.errors
  rw [none_] at told said
  exact {
    hearers := noted.hearers
    numbers := noted.numbers
    complete := noted.complete
    speaking := by
      intro j stopped' beat results' left is
      obtain rfl := alone.unique ours ⟨_, _, _, _, is⟩
      cases begun.symm.trans is
      exact ⟨_, rfl, rfl, rfl, rfl, noted.hearers⟩
    silent := fun quiet => absurd ours (quiet i)
    deliveries := by simpa [setPhase, Notice.deliveries] using told
    errors := by simpa [setPhase, Notice.errors] using said }

theorem Noted.deliver (noted : Noted listeners l past current) (alone : l.Alone) {stopped : Bool}
    {beat : Nat} {results : Results} {next : Listener} {left : List Listener}
    (present : l.run? i = some ⟨stopped, .notifying beat results (next :: left)⟩) :
    ∃ current', Noted listeners { l.setPhase i (.notifying beat results left) with
      desk := l.desk.notify beat results next } past current' := by
  obtain ⟨n, rfl, rfl, number, rfl, whole⟩ := noted.speaking i _ _ _ _ present
  have going := run?_setPhase_self present (.notifying n.number n.results left)
  have told := noted.deliveries
  have said := noted.errors
  rw [List.flatMap_append] at told said
  refine ⟨some (n.tell next), ?_⟩
  exact {
    hearers := noted.hearers
    numbers := noted.numbers
    complete := noted.complete
    speaking := by
      intro j stopped' beat results' left' is
      obtain rfl := alone.unique_setPhase ⟨_, _, _, _, present⟩ ⟨_, _, _, _, is⟩
      cases going.symm.trans is
      exact ⟨_, rfl, rfl, number, rfl, by rw [Notice.tell, List.append_assoc]; exact whole⟩
    silent := fun quiet => absurd ⟨_, _, _, _, going⟩ (quiet i)
    deliveries := by
      simp [Desk.notify, told, Notice.deliveries_tell]
    errors := by
      have reports : (l.desk.notify n.number n.results next).reports =
          l.desk.reports ++ next.reports n.number n.results := List.append_assoc ..
      rw [reports, List.filter_append, said, Listener.errors_reports]
      simp [Notice.errors_tell] }

theorem Noted.finish (noted : Noted listeners l past current) (alone : l.Alone) {stopped : Bool}
    {beat : Nat} {results : Results}
    (present : l.run? i = some ⟨stopped, .notifying beat results []⟩) :
    ∃ past', Noted listeners { l.setPhase i .waiting with beats := l.beats + 1 } past' none := by
  obtain ⟨n, rfl, rfl, number, rfl, whole⟩ := noted.speaking i _ _ _ _ present
  rw [List.append_nil] at whole
  have none_ : ∀ j, ¬(l.setPhase i .waiting).Notifies j := by
    intro j notifies
    obtain rfl := alone.unique_setPhase ⟨_, _, _, _, present⟩ notifies
    obtain ⟨stopped', beat, results', left, is⟩ := notifies
    cases (run?_setPhase_self present .waiting).symm.trans is
  refine ⟨past ++ [n], ?_⟩
  exact {
    hearers := noted.hearers
    numbers := by
      rw [List.map_append, noted.numbers, List.range'_concat, List.map_singleton, number]
      simp [Nat.add_comm]
    complete := by
      intro m member
      rcases List.mem_append.mp member with old | new
      · exact noted.complete m old
      · exact List.mem_singleton.mp new ▸ whole
    speaking := fun j stopped' beat results' left is => absurd ⟨_, _, _, _, is⟩ (none_ j)
    silent := fun _ => rfl
    deliveries := by simpa [setPhase] using noted.deliveries
    errors := by simpa [setPhase] using noted.errors }

/-- Every step keeps to notices that are told to all listeners in their order. -/
theorem Noted.step (noted : Noted listeners l past current) (alone : l.Alone) {step : Step}
    (taken : l.step? step = some l') (alone' : l'.Alone) :
    ∃ past' current', Noted listeners l' past' current' := by
  cases step with
  | start =>
    obtain ⟨-, rfl⟩ := start_some taken
    refine ⟨past, current, noted.quiet rfl rfl rfl fun j beat results left => ?_⟩
    have fresh : ∀ stopped, (l.runs ++ [⟨false, .waiting⟩])[j]? =
        some ⟨stopped, .notifying beat results left⟩ ↔
        l.runs[j]? = some ⟨stopped, .notifying beat results left⟩ := by
      intro stopped
      rw [List.getElem?_append]
      split
      · rfl
      · rename_i outside
        rw [List.getElem?_eq_none (Nat.le_of_not_lt outside), List.getElem?_singleton]
        split <;> simp
    exact exists_congr fresh
  | stop =>
    obtain rfl : l.stop = l' := Option.some.inj taken
    refine ⟨past, current, noted.quiet rfl rfl rfl fun j beat results left => ?_⟩
    constructor
    · rintro ⟨stopped, is⟩
      obtain ⟨⟨signal, phase⟩, was, same⟩ :=
        Option.map_eq_some_iff.mp ((List.getElem?_map ..).symm.trans is)
      cases same
      exact ⟨signal, was⟩
    · rintro ⟨stopped, was⟩
      exact ⟨true, run?_stop was⟩
  | wake i active =>
    obtain ⟨stopped, present, rfl⟩ := wake?_some taken
    exact ⟨past, current, noted.quiet rfl rfl rfl
      (speaking_setPhase present (by simp) (by cases stopped <;> simp))⟩
  | quit i =>
    obtain ⟨present, rfl⟩ := quit?_some taken
    exact ⟨past, current, noted.quiet rfl rfl rfl
      (speaking_setPhase present (by simp) (by simp))⟩
  | collect i results =>
    obtain ⟨stopped, present, rfl⟩ := collect?_some taken
    exact ⟨past, _, noted.collect present alone'⟩
  | deliver i =>
    obtain ⟨stopped, beat, results, next, left, present, rfl⟩ := deliver?_some taken
    exact ⟨past, noted.deliver alone present⟩
  | finish i =>
    obtain ⟨stopped, beat, results, present, rfl⟩ := finish?_some taken
    obtain ⟨past', counted⟩ := noted.finish alone present
    exact ⟨past', none, counted⟩

theorem Noted.play (noted : Noted listeners l past current) (steps : List Step)
    (alone : ∀ done, done <+: steps → (l.play done).Alone) :
    ∃ past' current', Noted listeners (l.play steps) past' current' := by
  induction steps generalizing l past current with
  | nil => exact ⟨past, current, noted⟩
  | cons step rest ih =>
    have later : ∀ done, done <+: rest → ((l.attempt step).play done).Alone := by
      intro done begins
      exact alone (step :: done) (List.prefix_cons_inj step |>.mpr begins)
    have next : ∃ past' current', Noted listeners (l.attempt step) past' current' := by
      have after := later [] List.nil_prefix
      unfold attempt at after ⊢
      cases taken : l.step? step with
      | none => exact ⟨past, current, noted⟩
      | some l' =>
        rw [taken] at after
        exact noted.step (alone [] List.nil_prefix) taken after
    obtain ⟨past', current', noted'⟩ := next
    exact ih noted' later

/-- A notice that is under way has the next number, and some of the listeners have been told. -/
theorem Noted.under_way (noted : Noted listeners l past current) {n : Notice}
    (same : current = some n) : n.number = l.beats + 1 ∧ n.told <+: listeners := by
  by_cases quiet : ∀ i, ¬l.Notifies i
  · rw [noted.silent quiet] at same
    cases same
  · obtain ⟨i, notifies⟩ := Classical.not_forall_not.mp quiet
    obtain ⟨stopped, beat, results, left, present⟩ := notifies
    obtain ⟨m, other, -, number, -, whole⟩ := noted.speaking i _ _ _ _ present
    obtain rfl := Option.some.inj (other.symm.trans same)
    exact ⟨number, left, whole⟩

end Lifecycle

end HealthWatch
