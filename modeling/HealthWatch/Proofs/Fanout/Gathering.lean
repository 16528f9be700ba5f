import HealthWatch.Gathering
import HealthWatch.Proofs.NameMap

/-!
# What a round knows

`fate?` reads off the steps of a round alone what becomes of a check: the first of the end of its
task, the shutdown and the look that tells of it decides. `Truthful` says that the round knows just
that, and every step keeps it.
-/

namespace HealthWatch

theorem Workers.live_of_owned {w : Workers} (owned : w.isOwned = true) :
    w.isLive = true ∧ w.isBorrowed = false := by
  obtain ⟨size, engine⟩ := w
  cases engine with
  | borrowed => cases owned
  | running => exact ⟨rfl, rfl⟩
  | down => cases owned

theorem Workers.isOwned_eq_isLive {w : Workers} (unborrowed : w.isBorrowed = false) :
    w.isOwned = w.isLive := by
  obtain ⟨size, engine⟩ := w
  cases engine with
  | borrowed => cases unborrowed
  | running => rfl
  | down => rfl

theorem Workers.down_shutdown {w : Workers} (unborrowed : w.isBorrowed = false) :
    w.shutdown.isLive = false ∧ w.shutdown.isBorrowed = false := by
  obtain ⟨size, engine⟩ := w
  cases engine with
  | borrowed => cases unborrowed
  | running => exact ⟨rfl, rfl⟩
  | down => exact ⟨rfl, rfl⟩

namespace Gathering

theorem steps?_append (g : Gathering) (h h' : List Step) :
    g.steps? (h ++ h') = (g.steps? h).bind fun g => g.steps? h' := by
  induction h generalizing g with
  | nil => rfl
  | cons step rest ih =>
    simp only [List.cons_append, steps?]
    cases g.step? step with
    | none => rfl
    | some g' => exact ih g'

theorem look?_eq_some {g g' : Gathering} {name : String} (taken : g.look? name = some g') :
    ∃ rest, g.unspawned = [] ∧ g.awaiting = name :: rest ∧ ∃ found, g.found? name = some found ∧
      g' = { g with awaiting := rest, results := g.results.insert name found.verdict } := by
  unfold look? at taken
  split at taken
  case h_2 => cases taken
  rename_i next rest left waiting
  split at taken
  case isFalse => cases taken
  rename_i this
  obtain ⟨found, finds, rfl⟩ := Option.map_eq_some_iff.mp taken
  exact ⟨rest, left, this ▸ waiting, found, finds, rfl⟩

/-! ### What becomes of a check -/

/-- What a step settles about a check, if nothing was settled before. -/
def Step.settles? (name : String) : Step → Option Awaited
  | .finish n reply => if n = name then some (.ended (.ofReply reply)) else none
  | .shutdown => some (.ended .cancelled)
  | .look n => if n = name then some .late else none
  | .spawn | .deadline => none

def fate? (name : String) (h : List Step) : Option Awaited :=
  h.findSome? (·.settles? name)

theorem fate?_append (name : String) (h h' : List Step) :
    fate? name (h ++ h') = (fate? name h).or (fate? name h') :=
  List.findSome?_append

theorem fate?_snoc (name : String) (h : List Step) (step : Step) :
    fate? name (h ++ [step]) = (fate? name h).or (step.settles? name) := by
  rw [fate?_append, fate?, fate?, List.findSome?_singleton]

theorem fate?_snoc_silent {name : String} {step : Step} (silent : step.settles? name = none)
    (h : List Step) : fate? name (h ++ [step]) = fate? name h := by
  rw [fate?_snoc, silent, Option.or_none]

/-- The steps that settle a check agree, and one of them has been taken. -/
theorem fate?_of_agreeing {name : String} {h : List Step} {step : Step} (member : step ∈ h)
    {fate : Awaited} (settles : step.settles? name = some fate)
    (agreeing : ∀ s ∈ h, ∀ other, s.settles? name = some other → other = fate) :
    fate? name h = some fate := by
  have some_ : (fate? name h).isSome = true :=
    List.findSome?_isSome_iff.mpr ⟨step, member, settles ▸ rfl⟩
  obtain ⟨other, found⟩ := Option.isSome_iff_exists.mp some_
  obtain ⟨s, taken, settles'⟩ := List.exists_of_findSome?_eq_some found
  rw [found, agreeing s taken other settles']

/-- A shutdown settles all that is open. -/
theorem fate?_isSome (name : String) {h : List Step} (stopped : .shutdown ∈ h) :
    (fate? name h).isSome = true :=
  List.findSome?_isSome_iff.mpr ⟨.shutdown, stopped, rfl⟩

/-- The verdict of a fate that is settled. -/
def sentence (name : String) (h : List Step) : Verdict :=
  ((fate? name h).getD .late).verdict

theorem sentence_of_fate {name : String} {h : List Step} {fate : Awaited}
    (found : fate? name h = some fate) : sentence name h = fate.verdict := by
  rw [sentence, found, Option.getD_some]

def Step.looked? : Step → Option String
  | .look name => some name
  | _ => none

/-- The names that the caller has looked at, in this order. -/
def looked (h : List Step) : List String :=
  h.filterMap Step.looked?

theorem looked_snoc (h : List Step) (step : Step) :
    looked (h ++ [step]) = looked h ++ step.looked?.toList := by
  rw [looked, looked, List.filterMap_append]
  cases found : step.looked? with
  | none => rw [List.filterMap_cons_none found, List.filterMap_nil, Option.toList_none]
  | some name => rw [List.filterMap_cons_some found, List.filterMap_nil, Option.toList_some]

theorem looked_snoc_silent {step : Step} (silent : step.looked? = none) (h : List Step) :
    looked (h ++ [step]) = looked h := by
  rw [looked_snoc, silent, Option.toList_none, List.append_nil]

theorem mem_looked {name : String} {h : List Step} : name ∈ looked h ↔ .look name ∈ h := by
  rw [looked, List.mem_filterMap]
  constructor
  · rintro ⟨step, member, found⟩
    cases step with
    | look n => exact Option.some.inj found ▸ member
    | _ => cases found
  · intro member
    exact ⟨.look name, member, rfl⟩

theorem fate?_isSome_of_looked {name : String} {h : List Step} (told : name ∈ looked h) :
    (fate? name h).isSome = true :=
  List.findSome?_isSome_iff.mpr ⟨.look name, mem_looked.mp told, by simp [Step.settles?]⟩

/-! ### The invariant -/

variable {names : List String} {h : List Step} {g g' : Gathering}

/-- The round agrees with the steps that it has taken. -/
structure Truthful (names : List String) (h : List Step) (g : Gathering) : Prop where
  unborrowed : g.workers.isBorrowed = false
  complete : g.spawned ++ g.unspawned = names
  inOrder : looked h ++ g.awaiting = g.spawned
  told : g.results.entries = (looked h).map fun n => (n, sentence n h)
  seen : ∀ n ∈ g.awaiting, fate? n h = (g.ended? n).map .ended
  givenUp : ∀ n ∈ looked h, g.ended? n = none → fate? n h = some .late
  late : ∀ n, fate? n h = some .late → .deadline ∈ h
  unended : ∀ n ∈ g.unspawned, g.ended? n = none
  unsettled : ∀ n ∈ g.unspawned,
    fate? n h = if g.workers.isLive then none else some (.ended .cancelled)
  down : g.workers.isLive = false → .shutdown ∈ h
  passed : g.passed = true ↔ .deadline ∈ h

theorem truthful_begin {workers : Workers} (owned : workers.isOwned = true) (names : List String) :
    Truthful names [] (begin workers names) := by
  obtain ⟨live, unborrowed⟩ := Workers.live_of_owned owned
  exact {
    unborrowed := unborrowed
    complete := rfl
    inOrder := rfl
    told := rfl
    seen := fun n member => nomatch member
    givenUp := fun n member => nomatch member
    late := fun n settled => nomatch settled
    unended := fun _ _ => rfl
    unsettled := fun n _ => (if_pos live).symm
    down := fun down => absurd (live.symm.trans down) (by decide)
    passed := by simp [begin] }

/-- What has been told stays as it is, whatever comes. -/
theorem sentence_snoc {n : String} (told : n ∈ looked h) (step : Step) :
    sentence n (h ++ [step]) = sentence n h := by
  obtain ⟨fate, found⟩ := Option.isSome_iff_exists.mp (fate?_isSome_of_looked told)
  rw [sentence, sentence, fate?_snoc, found, Option.some_or]

namespace Truthful

theorem told_snoc (truthful : Truthful names h g) (step : Step) :
    g.results.entries = (looked h).map fun n => (n, sentence n (h ++ [step])) := by
  rw [truthful.told]
  exact List.map_congr_left fun n member => by rw [sentence_snoc member step]

theorem spawned_of_awaiting (truthful : Truthful names h g) {n : String} (waited : n ∈ g.awaiting) :
    n ∈ g.spawned :=
  truthful.inOrder ▸ List.mem_append_right (looked h) waited

theorem spawned_of_looked (truthful : Truthful names h g) {n : String} (told : n ∈ looked h) :
    n ∈ g.spawned :=
  truthful.inOrder ▸ List.mem_append_left g.awaiting told

theorem spawned_unspawned (truthful : Truthful names h g) (distinct : names.Nodup) {n m : String}
    (given : n ∈ g.spawned) (left : m ∈ g.unspawned) : n ≠ m := by
  have apart := truthful.complete ▸ distinct
  exact fun same => (List.nodup_append.mp apart).2.2 n given m left same

theorem down_snoc (truthful : Truthful names h g) (step : Step) (down : g.workers.isLive = false) :
    .shutdown ∈ h ++ [step] :=
  List.mem_append_left _ (truthful.down down)

theorem late_snoc (truthful : Truthful names h g) {step : Step} {n : String}
    (other : step.settles? n ≠ some .late) (settled : fate? n (h ++ [step]) = some .late) :
    .deadline ∈ h ++ [step] := by
  rw [fate?_snoc, Option.or_eq_some_iff] at settled
  rcases settled with before | ⟨-, now⟩
  · exact List.mem_append_left _ (truthful.late n before)
  · exact absurd now other

theorem spawn (truthful : Truthful names h g) (distinct : names.Nodup) (taken : g.spawn? = some g') :
    Truthful names (h ++ [.spawn]) g' := by
  have fate : ∀ n, fate? n (h ++ [.spawn]) = fate? n h := fun n => fate?_snoc_silent rfl h
  have same : looked (h ++ [.spawn]) = looked h := looked_snoc_silent rfl h
  unfold spawn? at taken
  split at taken
  case h_1 => cases taken
  rename_i name rest left
  have first : name ∈ g.unspawned := left ▸ List.mem_cons_self
  have apart := List.nodup_cons.mp (left ▸ (List.nodup_append.mp (truthful.complete ▸ distinct)).2.1)
  have still : ∀ n ∈ rest, n ∈ g.unspawned := fun n member => left ▸ List.mem_cons_of_mem name member
  have next := Option.some.inj taken
  -- Only the new task can be cancelled by this.
  have kept : ∀ n, n ≠ name → g'.ended? n = g.ended? n := fun n other => by
    rw [← next]
    exact if_neg fun both => other both.1
  subst next
  refine ⟨truthful.unborrowed, ?_, ?_, ?_, ?_, ?_, ?_, ?_, ?_, truthful.down_snoc .spawn, ?_⟩
  · rw [← truthful.complete, left, List.append_assoc, List.singleton_append]
  · rw [same, ← truthful.inOrder, List.append_assoc]
  · rw [same]
    exact truthful.told_snoc .spawn
  · intro n member
    rw [fate]
    rcases List.mem_append.mp member with waited | new
    · have given := truthful.spawned_of_awaiting waited
      rw [kept n (truthful.spawned_unspawned distinct given first)]
      exact truthful.seen n waited
    · obtain rfl := List.mem_singleton.mp new
      rw [truthful.unsettled n first]
      cases g.workers.isLive with
      | true => simp [truthful.unended n first]
      | false => simp
  · intro n told unended
    rw [same] at told
    rw [kept n (truthful.spawned_unspawned distinct (truthful.spawned_of_looked told) first)]
      at unended
    rw [fate]
    exact truthful.givenUp n told unended
  · intro n
    exact truthful.late_snoc (by simp [Step.settles?])
  · intro n member
    rw [kept n fun same => apart.1 (same ▸ member)]
    exact truthful.unended n (still n member)
  · intro n member
    rw [fate]
    exact truthful.unsettled n (still n member)
  · simpa using truthful.passed

theorem finish (truthful : Truthful names h g) (distinct : names.Nodup) {name : String}
    {reply : Reply} (taken : g.finish? name reply = some g') :
    Truthful names (h ++ [.finish name reply]) g' := by
  unfold finish? at taken
  split at taken
  case isFalse => cases taken
  rename_i open_
  obtain ⟨given, unended⟩ := open_
  obtain rfl := Option.some.inj taken
  have same : looked (h ++ [.finish name reply]) = looked h := looked_snoc_silent rfl h
  have fate : ∀ n, name ≠ n → fate? n (h ++ [.finish name reply]) = fate? n h :=
    fun n different => by
      refine fate?_snoc_silent ?_ h
      exact if_neg different
  have kept : ∀ n, name ≠ n → (g.endTask name (.ofReply reply)).ended? n = g.ended? n :=
    fun n different => if_neg different.symm
  have other : ∀ n ∈ g.unspawned, name ≠ n := fun n left =>
    truthful.spawned_unspawned distinct given left
  refine ⟨truthful.unborrowed, truthful.complete, ?_, ?_, ?_, ?_, ?_, ?_, ?_,
    truthful.down_snoc _, ?_⟩
  · rw [same]
    exact truthful.inOrder
  · rw [same]
    exact truthful.told_snoc _
  · intro n waited
    have seen := truthful.seen n waited
    by_cases this : name = n
    · subst this
      rw [unended] at seen
      rw [fate?_snoc, seen]
      simp [endTask, Step.settles?]
    · rw [fate n this, kept n this]
      exact seen
  · intro n told still
    rw [same] at told
    have this : name ≠ n := by
      rintro rfl
      simp [endTask] at still
    rw [kept n this] at still
    rw [fate n this]
    exact truthful.givenUp n told still
  · intro n
    refine truthful.late_snoc ?_
    show (if name = n then some (Awaited.ended (.ofReply reply)) else none) ≠ some .late
    split <;> simp
  · intro n left
    rw [kept n (other n left)]
    exact truthful.unended n left
  · intro n left
    rw [fate n (other n left)]
    exact truthful.unsettled n left
  · simpa [endTask] using truthful.passed

theorem shutdown (truthful : Truthful names h g) (distinct : names.Nodup) :
    Truthful names (h ++ [.shutdown]) g.shutdown := by
  have fate : ∀ n, fate? n (h ++ [.shutdown]) = (fate? n h).or (some (.ended .cancelled)) :=
    fun n => fate?_snoc n h .shutdown
  have same : looked (h ++ [.shutdown]) = looked h := looked_snoc_silent rfl h
  have stopped : Step.shutdown ∈ h ++ [.shutdown] := List.mem_append_right _ List.mem_cons_self
  have passed : g.passed = true ↔ .deadline ∈ h ++ [Step.shutdown] := by
    simpa using truthful.passed
  have late : ∀ n, fate? n (h ++ [.shutdown]) = some .late → .deadline ∈ h ++ [Step.shutdown] :=
    fun n => truthful.late_snoc (by simp [Step.settles?])
  have told : g.results.entries =
      (looked (h ++ [.shutdown])).map fun n => (n, sentence n (h ++ [.shutdown])) := by
    rw [same]
    exact truthful.told_snoc .shutdown
  unfold Gathering.shutdown
  split
  · rename_i owned
    obtain ⟨down, unborrowed⟩ := Workers.down_shutdown truthful.unborrowed
    have live := (Workers.isOwned_eq_isLive truthful.unborrowed).symm.trans owned
    refine ⟨unborrowed, truthful.complete, ?_, told, ?_, ?_, late, ?_, ?_, fun _ => stopped, passed⟩
    · rw [same]
      exact truthful.inOrder
    · intro n waited
      rw [fate, truthful.seen n waited]
      simp only [truthful.spawned_of_awaiting waited, if_true]
      cases g.ended? n <;> rfl
    · intro n known unended
      rw [same] at known
      simp [truthful.spawned_of_looked known] at unended
    · intro n left
      have unspawned : n ∉ g.spawned := fun given =>
        truthful.spawned_unspawned distinct given left rfl
      simp only [unspawned, if_false]
      exact truthful.unended n left
    · intro n left
      rw [fate, truthful.unsettled n left, live, down]
      rfl
  · rename_i unowned
    -- The pool is down already, so the first shutdown has settled all.
    have down : g.workers.isLive = false :=
      (Workers.isOwned_eq_isLive truthful.unborrowed).symm.trans (by simpa using unowned)
    have kept : ∀ n, fate? n (h ++ [.shutdown]) = fate? n h := by
      intro n
      obtain ⟨fate', found⟩ := Option.isSome_iff_exists.mp (fate?_isSome n (truthful.down down))
      rw [fate, found, Option.some_or]
    refine ⟨truthful.unborrowed, truthful.complete, ?_, told, ?_, ?_, late, truthful.unended, ?_,
      fun _ => stopped, passed⟩
    · rw [same]
      exact truthful.inOrder
    · intro n waited
      rw [kept]
      exact truthful.seen n waited
    · intro n known unended
      rw [same] at known
      rw [kept]
      exact truthful.givenUp n known unended
    · intro n left
      rw [kept]
      exact truthful.unsettled n left

theorem deadline (truthful : Truthful names h g) :
    Truthful names (h ++ [.deadline]) { g with passed := true } := by
  have fate : ∀ n, fate? n (h ++ [.deadline]) = fate? n h := fun n => fate?_snoc_silent rfl h
  have same : looked (h ++ [.deadline]) = looked h := looked_snoc_silent rfl h
  have passed : Step.deadline ∈ h ++ [.deadline] := List.mem_append_right _ List.mem_cons_self
  refine ⟨truthful.unborrowed, truthful.complete, ?_, ?_, ?_, ?_, fun _ _ => passed,
    truthful.unended, ?_, truthful.down_snoc _, ⟨fun _ => passed, fun _ => rfl⟩⟩
  · rw [same]
    exact truthful.inOrder
  · rw [same]
    exact truthful.told_snoc .deadline
  · intro n waited
    rw [fate]
    exact truthful.seen n waited
  · intro n known unended
    rw [same] at known
    rw [fate]
    exact truthful.givenUp n known unended
  · intro n left
    rw [fate]
    exact truthful.unsettled n left

/-- What a look finds is the fate of the check. -/
theorem fate?_look (truthful : Truthful names h g) {name : String} (waited : name ∈ g.awaiting)
    {found : Awaited} (finds : g.found? name = some found) :
    fate? name (h ++ [.look name]) = some found ∧ (found = .late → .deadline ∈ h) := by
  have seen := truthful.seen name waited
  unfold found? at finds
  split at finds
  · rename_i e ended
    obtain rfl := Option.some.inj finds
    rw [fate?_snoc, seen, ended]
    exact ⟨rfl, fun same => nomatch same⟩
  · rename_i unended
    split at finds
    case isFalse => cases finds
    rename_i passed
    obtain rfl := Option.some.inj finds
    rw [fate?_snoc, seen, unended]
    exact ⟨if_pos rfl, fun _ => truthful.passed.mp passed⟩

theorem look (truthful : Truthful names h g) (ascending : names.Pairwise (· < ·)) {name : String}
    (taken : g.look? name = some g') : Truthful names (h ++ [.look name]) g' := by
  obtain ⟨rest, left, waiting, found, finds, rfl⟩ := look?_eq_some taken
  have waited : name ∈ g.awaiting := waiting ▸ List.mem_cons_self
  obtain ⟨fateHere, lateHere⟩ := truthful.fate?_look waited finds
  have fate : ∀ n, name ≠ n → fate? n (h ++ [.look name]) = fate? n h :=
    fun n different => by
      refine fate?_snoc_silent ?_ h
      exact if_neg different
  have same : looked (h ++ [.look name]) = looked h ++ [name] := looked_snoc h (.look name)
  have everyone : looked h ++ name :: rest = names := by
    rw [← waiting, truthful.inOrder, ← truthful.complete, left, List.append_nil]
  obtain ⟨-, onwards, below⟩ := List.pairwise_append.mp (everyone ▸ ascending)
  have different : ∀ n ∈ rest, name ≠ n := fun n member =>
    String.ne_of_lt ((List.pairwise_cons.mp onwards).1 n member)
  have before : ∀ n ∈ looked h, name ≠ n := fun n member =>
    (String.ne_of_lt (below n member name List.mem_cons_self)).symm
  refine ⟨truthful.unborrowed, truthful.complete, ?_, ?_, ?_, ?_, ?_, ?_, ?_,
    truthful.down_snoc _, ?_⟩
  · rw [same, List.append_assoc, List.singleton_append, ← waiting]
    exact truthful.inOrder
  · have last : ∀ entry ∈ g.results.entries, entry.1 < name := by
      intro entry member
      rw [truthful.told] at member
      obtain ⟨n, told, rfl⟩ := List.mem_map.mp member
      exact below n told name List.mem_cons_self
    rw [same, List.map_append, List.map_singleton, ← truthful.told_snoc (.look name),
      sentence_of_fate fateHere]
    exact NameMap.insertEntry_last last
  · intro n member
    rw [fate n (different n member)]
    exact truthful.seen n (waiting ▸ List.mem_cons_of_mem name member)
  · intro n known unended
    rw [same] at known
    rcases List.mem_append.mp known with told | this
    · rw [fate n (before n told)]
      exact truthful.givenUp n told unended
    · obtain rfl := List.mem_singleton.mp this
      rw [fate?_snoc, truthful.seen n waited, unended]
      exact if_pos rfl
  · intro n settled
    by_cases this : name = n
    · subst this
      obtain rfl := Option.some.inj (fateHere.symm.trans settled)
      exact List.mem_append_left _ (lateHere rfl)
    · rw [fate n this] at settled
      exact List.mem_append_left _ (truthful.late n settled)
  · exact truthful.unended
  · intro n member
    rw [left] at member
    cases member
  · simpa using truthful.passed

theorem step (truthful : Truthful names h g) (ascending : names.Pairwise (· < ·)) {step : Step}
    (taken : g.step? step = some g') : Truthful names (h ++ [step]) g' := by
  have distinct : names.Nodup := ascending.imp String.ne_of_lt
  cases step with
  | spawn => exact truthful.spawn distinct taken
  | finish name reply => exact truthful.finish distinct taken
  | shutdown =>
    obtain rfl := Option.some.inj taken
    exact truthful.shutdown distinct
  | deadline =>
    obtain rfl := Option.some.inj taken
    exact truthful.deadline
  | look name => exact truthful.look ascending taken

theorem steps (truthful : Truthful names h g) (ascending : names.Pairwise (· < ·))
    {more : List Step} (taken : g.steps? more = some g') : Truthful names (h ++ more) g' := by
  induction more generalizing h g with
  | nil =>
    obtain rfl := Option.some.inj taken
    rwa [List.append_nil]
  | cons step rest ih =>
    obtain ⟨next, first, taken⟩ := Option.bind_eq_some_iff.mp taken
    have kept := ih (truthful.step ascending first) taken
    rwa [List.append_assoc, List.singleton_append] at kept

/-- A round is over as soon as the caller has looked at all its checks. -/
theorem isOver_iff (truthful : Truthful names h g) : g.isOver ↔ looked h = names := by
  constructor
  · rintro ⟨left, waiting⟩
    rw [← truthful.complete, left, ← truthful.inOrder, waiting, List.append_nil, List.append_nil]
  · intro everyone
    have whole := truthful.complete
    rw [← truthful.inOrder, everyone, List.append_assoc] at whole
    have nothing := List.append_eq_nil_iff.mp (List.append_right_eq_self.mp whole)
    exact ⟨nothing.2, nothing.1⟩

/-- A round that is over has one entry for each check, with the verdict on its fate. -/
theorem entries_of_isOver (truthful : Truthful names h g) (returned : g.isOver) :
    g.results.entries = names.map (fun n => (n, sentence n h)) ∧
      ∀ n ∈ names, (fate? n h).isSome = true := by
  have everyone := truthful.isOver_iff.mp returned
  constructor
  · rw [truthful.told, everyone]
  · intro n member
    exact fate?_isSome_of_looked (everyone ▸ member)

theorem find?_of_fate (truthful : Truthful names h g) (returned : g.isOver) {name : String}
    (member : name ∈ names) {fate : Awaited} (found : fate? name h = some fate) :
    g.results.find? name = some fate.verdict := by
  refine NameMap.find?_of_mem (e := (name, fate.verdict)) ?_
  rw [(truthful.entries_of_isOver returned).1]
  exact List.mem_map.mpr ⟨name, member, by rw [sentence_of_fate found]⟩

end Truthful

end Gathering

end HealthWatch
