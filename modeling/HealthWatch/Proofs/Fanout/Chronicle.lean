import HealthWatch.Proofs.Fanout.Gathering
import HealthWatch.Proofs.Fanout.Waiting
import Mathlib.Data.List.Nodup

/-!
# The rounds of a session, step by step

The jobs of a session end at known times, and so the order is known in which they end, the pool is
shut down and the deadline passes. `steps?_chronicle` says that the steps of this `chronicle` can be
taken, and that the round then knows of each job what a timed round knows.
-/

namespace HealthWatch

theorem JobEnd.reply?_eq_some {e : JobEnd} {reply : Reply} :
    e.reply? = some reply ↔ e = .ofReply reply := by
  cases e <;> cases reply <;> simp [reply?, ofReply]

namespace Gathering

variable {jobs : List Job} {time deadline : Nat}

theorem ownEnd?_eq_some {j : Job} {t : Nat} {step : Step} :
    ownEnd? j = some (t, step) ↔
      ∃ reply, step = .finish j.name reply ∧ j.ends? = some (t, .ofReply reply) := by
  constructor
  · intro found
    obtain ⟨⟨t', e⟩, ends, found⟩ := Option.bind_eq_some_iff.mp found
    obtain ⟨reply, told, same⟩ := Option.map_eq_some_iff.mp found
    obtain ⟨rfl, rfl⟩ := Prod.mk.inj same
    exact ⟨reply, rfl, JobEnd.reply?_eq_some.mp told ▸ ends⟩
  · rintro ⟨reply, rfl, ends⟩
    simp [ownEnd?, ends, JobEnd.reply?_eq_some.mpr rfl]

theorem mem_ownEnds {t : Nat} {step : Step} :
    (t, step) ∈ ownEnds jobs time ↔
      ∃ j ∈ jobs, ∃ reply, step = .finish j.name reply ∧ j.ends? = some (t, .ofReply reply) ∧
        t ≤ time := by
  simp only [ownEnds, List.mem_mergeSort, List.mem_filter, List.mem_filterMap, ownEnd?_eq_some,
    decide_eq_true_eq]
  constructor
  · rintro ⟨⟨j, member, reply, own, ends⟩, early⟩
    exact ⟨j, member, reply, own, ends, early⟩
  · rintro ⟨j, member, reply, own, ends, early⟩
    exact ⟨⟨j, member, reply, own, ends⟩, early⟩

theorem mem_timeline {t : Nat} {step : Step} :
    (t, step) ∈ timeline jobs time ↔
      (∃ j ∈ jobs, ∃ reply, step = .finish j.name reply ∧ j.ends? = some (t, .ofReply reply) ∧
        t ≤ time) ∨
      (t = time ∧ step = .shutdown) := by
  rw [timeline, List.mem_append, mem_ownEnds, List.mem_singleton, Prod.mk.injEq]

theorem mem_inTime {step : Step} :
    step ∈ inTime jobs time deadline ↔ ∃ t ≤ deadline, (t, step) ∈ timeline jobs time := by
  simp only [inTime, List.mem_map, List.mem_filter, decide_eq_true_eq]
  constructor
  · rintro ⟨⟨t, step⟩, ⟨member, early⟩, rfl⟩
    exact ⟨t, early, member⟩
  · rintro ⟨t, early, member⟩
    exact ⟨(t, step), ⟨member, early⟩, rfl⟩

theorem mem_tooLate {step : Step} :
    step ∈ tooLate jobs time deadline ↔ ∃ t, deadline < t ∧ (t, step) ∈ timeline jobs time := by
  simp only [tooLate, List.mem_map, List.mem_filter, decide_eq_true_eq]
  constructor
  · rintro ⟨⟨t, step⟩, ⟨member, late⟩, rfl⟩
    exact ⟨t, late, member⟩
  · rintro ⟨t, late, member⟩
    exact ⟨(t, step), ⟨member, late⟩, rfl⟩

/-! ### The fate of a job -/

theorem fate?_spawns (name : String) (n : Nat) : fate? name (List.replicate n .spawn) = none := by
  refine List.findSome?_eq_none_iff.mpr fun step member => ?_
  rw [(List.mem_replicate.mp member).2]
  rfl

theorem fate?_looks {name : String} (member : name ∈ jobs.map Job.name) :
    fate? name (jobs.map fun j => .look j.name) = some .late := by
  have looked : Step.look name ∈ jobs.map fun j => .look j.name := by
    obtain ⟨j, given, rfl⟩ := List.mem_map.mp member
    exact List.mem_map.mpr ⟨j, given, rfl⟩
  refine fate?_of_agreeing looked (if_pos rfl) fun s taken other settles => ?_
  obtain ⟨j, -, rfl⟩ := List.mem_map.mp taken
  rw [Step.settles?] at settles
  split at settles
  · exact (Option.some.inj settles).symm
  · cases settles

/-- The looks tell of the jobs to which nothing has happened by the deadline. -/
theorem fate?_chronicle_eq {name : String} (member : name ∈ jobs.map Job.name) :
    fate? name (chronicle jobs time deadline) =
      (fate? name (inTime jobs time deadline)).or (some .late) := by
  have looks : fate? name (.deadline :: (jobs.map (fun j => .look j.name) ++
      tooLate jobs time deadline)) = some .late := by
    rw [← List.singleton_append, fate?_append, fate?_append, fate?_looks member]
    rfl
  rw [chronicle, fate?_append, fate?_append, fate?_spawns, Option.none_or, looks]

/-- What settles the fate of a job by the deadline: the job itself or the shutdown. -/
theorem settled_inTime (distinct : (jobs.map Job.name).Nodup) {j : Job} (member : j ∈ jobs)
    {step : Step} {fate : Awaited} (occurs : step ∈ inTime jobs time deadline)
    (settles : step.settles? j.name = some fate) :
    (∃ t reply, t ≤ time ∧ t ≤ deadline ∧ j.ends? = some (t, .ofReply reply) ∧
      fate = .ended (.ofReply reply)) ∨
    (time ≤ deadline ∧ fate = .ended .cancelled) := by
  obtain ⟨t, early, occurs⟩ := mem_inTime.mp occurs
  rcases mem_timeline.mp occurs with ⟨j', member', reply, rfl, ends, upTo⟩ | ⟨rfl, rfl⟩
  · rw [Step.settles?] at settles
    split at settles
    · rename_i same
      obtain rfl := List.inj_on_of_nodup_map distinct member' member same
      exact .inl ⟨t, reply, upTo, early, ends, (Option.some.inj settles).symm⟩
    · cases settles
  · exact .inr ⟨early, (Option.some.inj settles).symm⟩

theorem seen_cut_of_unended {j : Job}
    (own : ∀ t e, j.ends? = some (t, e) → ∃ reply, e = .ofReply reply)
    (unended : ∀ t reply, j.ends? = some (t, .ofReply reply) → t ≤ time → deadline < t) :
    (j.cut time).seen deadline = if time ≤ deadline then .ended .cancelled else .late := by
  cases ends : j.ends? with
  | none => simp [Job.cut, Job.seen, ends]
  | some e =>
    obtain ⟨t, e⟩ := e
    obtain ⟨reply, rfl⟩ := own t e ends
    by_cases early : t ≤ time
    · have late := unended t reply ends early
      have stops : ¬time ≤ deadline := by omega
      have passed : ¬t ≤ deadline := by omega
      simp [Job.cut, Job.seen, ends, early, stops, passed]
    · simp [Job.cut, Job.seen, ends, early]

/-- A job that has ended by the shutdown and the deadline: its own end comes before the shutdown. -/
theorem fate?_inTime_of_ended (distinct : (jobs.map Job.name).Nodup) {j : Job} (member : j ∈ jobs)
    {t : Nat} {reply : Reply} (ends : j.ends? = some (t, .ofReply reply)) (upTo : t ≤ time)
    (early : t ≤ deadline) :
    fate? j.name (inTime jobs time deadline) = some (.ended (.ofReply reply)) := by
  have listed : Step.finish j.name reply ∈
      ((ownEnds jobs time).filter (·.1 ≤ deadline)).map (·.2) := by
    refine List.mem_map.mpr ⟨(t, .finish j.name reply), List.mem_filter.mpr ⟨?_, by simpa⟩, rfl⟩
    exact mem_ownEnds.mpr ⟨j, member, reply, rfl, ends, upTo⟩
  have own : ∀ step ∈ ((ownEnds jobs time).filter (·.1 ≤ deadline)).map (·.2), ∀ fate,
      step.settles? j.name = some fate → fate = .ended (.ofReply reply) := by
    intro step listed fate settles
    obtain ⟨⟨t', step'⟩, occurs, rfl⟩ := List.mem_map.mp listed
    obtain ⟨j', member', reply', rfl, ends', -⟩ := mem_ownEnds.mp (List.mem_filter.mp occurs).1
    simp only [Step.settles?] at settles
    split at settles
    · rename_i same
      obtain rfl := List.inj_on_of_nodup_map distinct member' member same
      rw [ends] at ends'
      rw [(Prod.mk.inj (Option.some.inj ends')).2]
      exact (Option.some.inj settles).symm
    · cases settles
  rw [inTime, timeline, List.filter_append, List.map_append, fate?_append,
    fate?_of_agreeing listed (if_pos rfl) own, Option.some_or]

theorem fate?_chronicle (distinct : (jobs.map Job.name).Nodup) {j : Job} (member : j ∈ jobs)
    (own : ∀ t e, j.ends? = some (t, e) → ∃ reply, e = .ofReply reply) :
    fate? j.name (chronicle jobs time deadline) = some ((j.cut time).seen deadline) := by
  rw [fate?_chronicle_eq (List.mem_map_of_mem member)]
  by_cases ended : ∃ t reply, j.ends? = some (t, .ofReply reply) ∧ t ≤ time ∧ t ≤ deadline
  · obtain ⟨t, reply, ends, upTo, early⟩ := ended
    have seen : (j.cut time).seen deadline = .ended (.ofReply reply) := by
      simp [Job.cut, Job.seen, ends, upTo, early]
    rw [seen, fate?_inTime_of_ended distinct member ends upTo early, Option.some_or]
  · have unended : ∀ t reply, j.ends? = some (t, .ofReply reply) → t ≤ time → deadline < t := by
      intro t reply ends upTo
      by_contra early
      exact ended ⟨t, reply, ends, upTo, by omega⟩
    have stopped : ∀ step ∈ inTime jobs time deadline, ∀ fate,
        step.settles? j.name = some fate → time ≤ deadline ∧ fate = .ended .cancelled := by
      intro step occurs fate settles
      rcases settled_inTime distinct member occurs settles with
        ⟨t, reply, upTo, early, ends, -⟩ | cancelled
      · exact absurd ⟨t, reply, ends, upTo, early⟩ ended
      · exact cancelled
    rw [seen_cut_of_unended own unended]
    by_cases first : time ≤ deadline
    · have stops : Step.shutdown ∈ inTime jobs time deadline :=
        mem_inTime.mpr ⟨time, first, mem_timeline.mpr (.inr ⟨rfl, rfl⟩)⟩
      rw [if_pos first, fate?_of_agreeing stops rfl fun s taken other settles =>
        (stopped s taken other settles).2, Option.some_or]
    · have silent : fate? j.name (inTime jobs time deadline) = none := by
        refine List.findSome?_eq_none_iff.mpr fun step occurs => ?_
        refine Option.eq_none_iff_forall_ne_some.mpr fun fate settles => ?_
        exact first (stopped step occurs fate settles).1
      rw [if_neg first, silent, Option.none_or]

/-! ### The steps can be taken -/

/-- All tasks can be spawned. A live pool cancels none of them. -/
theorem steps?_spawns (g : Gathering) :
    ∃ ended?, g.steps? (List.replicate g.unspawned.length .spawn) =
        some { g with
          unspawned := []
          spawned := g.spawned ++ g.unspawned
          ended? := ended?
          awaiting := g.awaiting ++ g.unspawned } ∧
      (g.workers.isLive = true → ended? = g.ended?) := by
  obtain ⟨workers, unspawned, spawned, ended?, awaiting, passed, results⟩ := g
  induction unspawned generalizing spawned ended? awaiting with
  | nil =>
    refine ⟨ended?, ?_, fun _ => rfl⟩
    simp only [List.length_nil, List.replicate_zero, steps?, List.append_nil]
  | cons name rest ih =>
    obtain ⟨ended', taken, kept⟩ := ih (spawned ++ [name])
      (fun n => if n = name ∧ workers.isLive = false then some .cancelled else ended? n)
      (awaiting ++ [name])
    refine ⟨ended', ?_, fun live => ?_⟩
    · simp only [List.append_assoc, List.singleton_append] at taken
      exact taken
    · rw [kept live]
      funext n
      simp only at live
      simp [live]

/-- After the deadline each look tells something. -/
theorem steps?_looks (g : Gathering) (spawned : g.unspawned = []) (passed : g.passed = true) :
    ∃ results, g.steps? (g.awaiting.map .look) =
      some { g with awaiting := [], results := results } := by
  obtain ⟨workers, unspawned, given, ended?, awaiting, flag, results⟩ := g
  obtain rfl : unspawned = [] := spawned
  obtain rfl : flag = true := passed
  induction awaiting generalizing results with
  | nil => exact ⟨results, rfl⟩
  | cons name rest ih =>
    have finds : ∃ found, found? ⟨workers, [], given, ended?, name :: rest, true, results⟩ name =
        some found := by
      unfold found?
      split
      · exact ⟨_, rfl⟩
      · exact ⟨_, rfl⟩
    obtain ⟨found, finds⟩ := finds
    obtain ⟨results', taken⟩ := ih (results.insert name found.verdict)
    refine ⟨results', ?_⟩
    rw [List.map_cons, steps?, step?, look?]
    simp only [if_true, finds, Option.map_some, Option.bind_some]
    exact taken

theorem steps?_deadline_ownSteps (g : Gathering) :
    ∃ last, g.steps? (.deadline :: g.ownSteps) = some last ∧ last.isOver := by
  obtain ⟨ended?, spawned, -⟩ := steps?_spawns { g with passed := true }
  obtain ⟨results, looked⟩ := steps?_looks { g with
    unspawned := []
    spawned := g.spawned ++ g.unspawned
    ended? := ended?
    awaiting := g.awaiting ++ g.unspawned
    passed := true } rfl rfl
  refine ⟨_, Eq.trans ?_ looked, rfl, rfl⟩
  rw [steps?, step?, Option.bind_some, ownSteps, steps?_append, spawned, Option.bind_some]

/-- The two steps can be taken in this order: a task ends once, and not after a shutdown. -/
def Step.allows (a b : Step) : Prop :=
  ∀ name reply, b = .finish name reply → a ≠ .shutdown ∧ ∀ reply', a ≠ .finish name reply'

/-- Ends of tasks and shutdowns leave the caller where it is. -/
theorem steps?_events {g : Gathering} {h : List Step}
    (events : ∀ step ∈ h, step = .shutdown ∨ ∃ name reply, step = .finish name reply)
    (unended : ∀ name reply, .finish name reply ∈ h → name ∈ g.spawned ∧ g.ended? name = none)
    (allowed : h.Pairwise Step.allows) :
    ∃ workers ended?, g.steps? h = some { g with workers := workers, ended? := ended? } ∧
      (.shutdown ∉ h → ∀ name, (∀ reply, .finish name reply ∉ h) → ended? name = g.ended? name) := by
  induction h generalizing g with
  | nil => exact ⟨g.workers, g.ended?, rfl, fun _ _ _ => rfl⟩
  | cons step rest ih =>
    obtain ⟨first, onwards⟩ := List.pairwise_cons.mp allowed
    obtain ⟨event, others⟩ := List.forall_mem_cons.mp events
    have later : ∀ name reply, .finish name reply ∈ rest →
        name ∈ g.spawned ∧ g.ended? name = none :=
      fun name reply member => unended name reply (List.mem_cons_of_mem step member)
    rcases event with rfl | ⟨name, reply, rfl⟩
    · obtain ⟨workers, ended?, same⟩ : ∃ workers ended?,
          g.shutdown = { g with workers := workers, ended? := ended? } := by
        unfold shutdown
        split
        · exact ⟨_, _, rfl⟩
        · exact ⟨g.workers, g.ended?, rfl⟩
      have none_ : ∀ name reply, .finish name reply ∈ rest →
          name ∈ g.shutdown.spawned ∧ g.shutdown.ended? name = none :=
        fun name reply member => absurd rfl (first _ member name reply rfl).1
      obtain ⟨workers', ended', taken, -⟩ := ih others none_ onwards
      refine ⟨workers', ended', ?_, fun up => absurd List.mem_cons_self up⟩
      rw [steps?, step?, Option.bind_some, taken, same]
    · have possible : g.finish? name reply = some (g.endTask name (.ofReply reply)) :=
        if_pos (unended name reply List.mem_cons_self)
      have different : ∀ other reply', .finish other reply' ∈ rest → other ≠ name := by
        rintro other reply' member rfl
        exact (first _ member other reply' rfl).2 reply rfl
      have open_ : ∀ other reply', .finish other reply' ∈ rest →
          other ∈ (g.endTask name (.ofReply reply)).spawned ∧
            (g.endTask name (.ofReply reply)).ended? other = none := by
        intro other reply' member
        obtain ⟨given, unended⟩ := later other reply' member
        exact ⟨given, (if_neg (different other reply' member)).trans unended⟩
      obtain ⟨workers, ended?, taken, kept⟩ := ih others open_ onwards
      refine ⟨workers, ended?, ?_, fun up other silent => ?_⟩
      · rw [steps?, step?, possible, Option.bind_some, taken]
        rfl
      · have this : other ≠ name := fun same => silent reply (same ▸ List.mem_cons_self)
        have still := kept (fun stopped => up (List.mem_cons_of_mem _ stopped)) other
          fun reply' member => silent reply' (List.mem_cons_of_mem _ member)
        exact still.trans (if_neg this)

theorem timeline_allowed (distinct : (jobs.map Job.name).Nodup) (time : Nat) :
    (timeline jobs time).Pairwise fun a b => a.2.allows b.2 := by
  have named : jobs.Pairwise fun a b => a.name ≠ b.name := List.pairwise_map.mp distinct
  have once : ((jobs.filterMap ownEnd?).filter (·.1 ≤ time)).Pairwise fun a b =>
      ∀ name reply reply', a.2 = .finish name reply → b.2 ≠ .finish name reply' := by
    refine List.Pairwise.filter _ (named.filterMap ownEnd? ?_)
    rintro a b different ⟨t, step⟩ ends ⟨t', step'⟩ ends' name reply reply' rfl rfl
    obtain ⟨_, here, -⟩ := ownEnd?_eq_some.mp ends
    obtain ⟨_, there, -⟩ := ownEnd?_eq_some.mp ends'
    exact different ((Step.finish.inj here).1.symm.trans (Step.finish.inj there).1)
  have sorted : (ownEnds jobs time).Pairwise fun a b =>
      ∀ name reply reply', a.2 = .finish name reply → b.2 ≠ .finish name reply' := by
    refine (List.Perm.pairwise_iff ?_ (List.mergeSort_perm _ _)).mpr once
    intro a b apart name reply reply' here there
    exact apart name reply' reply there here
  refine List.pairwise_append.mpr ⟨List.Pairwise.imp_of_mem ?_ sorted,
    List.pairwise_singleton .., ?_⟩
  · rintro ⟨t, a⟩ ⟨t', b⟩ member - apart name reply rfl
    refine ⟨?_, fun reply' same => apart name reply' reply same rfl⟩
    rintro rfl
    obtain ⟨_, _, _, other, -⟩ := mem_ownEnds.mp member
    cases other
  · intro a _ b last name reply same
    rw [List.mem_singleton.mp last] at same
    cases same

theorem event_of_mem_timeline {t : Nat} {step : Step} (occurs : (t, step) ∈ timeline jobs time) :
    step = .shutdown ∨ ∃ name reply, step = .finish name reply := by
  rcases mem_timeline.mp occurs with ⟨_, _, reply, rfl, -⟩ | ⟨-, rfl⟩
  · exact .inr ⟨_, reply, rfl⟩
  · exact .inl rfl

theorem name_of_mem_timeline {t : Nat} {name : String} {reply : Reply}
    (occurs : (t, .finish name reply) ∈ timeline jobs time) : name ∈ jobs.map Job.name := by
  rcases mem_timeline.mp occurs with ⟨_, member, _, same, -⟩ | ⟨-, other⟩
  · exact (Step.finish.inj same).1 ▸ List.mem_map_of_mem member
  · cases other

theorem event_of_inTime {step : Step} (member : step ∈ inTime jobs time deadline) :
    step = .shutdown ∨ ∃ name reply, step = .finish name reply := by
  obtain ⟨t, -, occurs⟩ := mem_inTime.mp member
  exact event_of_mem_timeline occurs

theorem event_of_tooLate {step : Step} (member : step ∈ tooLate jobs time deadline) :
    step = .shutdown ∨ ∃ name reply, step = .finish name reply := by
  obtain ⟨t, -, occurs⟩ := mem_tooLate.mp member
  exact event_of_mem_timeline occurs

/-- A job that ends after the deadline has not ended before it, and the pool was up. -/
theorem unended_of_tooLate (distinct : (jobs.map Job.name).Nodup) {name : String} {reply : Reply}
    (member : .finish name reply ∈ tooLate jobs time deadline) :
    .shutdown ∉ inTime jobs time deadline ∧
      ∀ reply', .finish name reply' ∉ inTime jobs time deadline := by
  obtain ⟨t, late, occurs⟩ := mem_tooLate.mp member
  rcases mem_timeline.mp occurs with ⟨j, given, _, this, ends, upTo⟩ | ⟨-, other⟩
  case inr => cases other
  obtain ⟨rfl, rfl⟩ := Step.finish.inj this
  constructor
  · intro stopped
    obtain ⟨t', early, occurs'⟩ := mem_inTime.mp stopped
    rcases mem_timeline.mp occurs' with ⟨_, _, _, other, -⟩ | ⟨rfl, -⟩
    · cases other
    · omega
  · intro reply' ended
    obtain ⟨t', early, occurs'⟩ := mem_inTime.mp ended
    rcases mem_timeline.mp occurs' with ⟨j', given', _, same, ends', -⟩ | ⟨-, other⟩
    case inr => cases other
    obtain rfl := List.inj_on_of_nodup_map distinct given given' (Step.finish.inj same).1
    rw [ends] at ends'
    have := (Prod.mk.inj (Option.some.inj ends')).1
    omega

theorem looked_chronicle (jobs : List Job) (time deadline : Nat) :
    looked (chronicle jobs time deadline) = jobs.map Job.name := by
  have silent : ∀ h : List Step, (∀ step ∈ h, step.looked? = none) → looked h = [] :=
    fun h none_ => List.filterMap_eq_nil_iff.mpr none_
  have events : ∀ h : List Step,
      (∀ step ∈ h, step = .shutdown ∨ ∃ name reply, step = .finish name reply) → looked h = [] := by
    intro h event
    refine silent h fun step member => ?_
    rcases event step member with rfl | ⟨_, _, rfl⟩ <;> rfl
  have spawns := silent (List.replicate jobs.length .spawn) fun step member => by
    rw [(List.mem_replicate.mp member).2]
    rfl
  have before := events (inTime jobs time deadline) fun step => event_of_inTime
  have after := events (tooLate jobs time deadline) fun step => event_of_tooLate
  have looks : looked (jobs.map fun j => .look j.name) = jobs.map Job.name := by
    rw [looked, List.filterMap_map]
    exact congrFun List.filterMap_eq_map jobs
  unfold looked at *
  rw [chronicle, List.filterMap_append, spawns, List.nil_append, List.filterMap_append, before,
    List.nil_append, List.filterMap_cons_none rfl, List.filterMap_append, looks, after,
    List.append_nil]

/-- The steps of a chronicle can be taken, and the round then knows of each job what a timed round
does. -/
theorem steps?_chronicle {workers : Workers} (owned : workers.isOwned = true)
    (ascending : (jobs.map Job.name).Pairwise (· < ·))
    (own : ∀ j ∈ jobs, ∀ t e, j.ends? = some (t, e) → ∃ reply, e = .ofReply reply)
    (time deadline : Nat) :
    ∃ g, (begin workers (jobs.map Job.name)).steps? (chronicle jobs time deadline) = some g ∧
      g.isOver ∧ g.results.entries =
        jobs.map fun j => (j.name, ((j.cut time).seen deadline).verdict) := by
  have distinct : (jobs.map Job.name).Nodup := ascending.imp String.ne_of_lt
  have allowed := timeline_allowed distinct time
  obtain ⟨ended₀, spawned, fresh⟩ := steps?_spawns (begin workers (jobs.map Job.name))
  obtain rfl := fresh (Workers.live_of_owned owned).1
  obtain ⟨workers₁, ended₁, early, kept⟩ := steps?_events
    (g := ⟨workers, [], jobs.map Job.name, fun _ => none, jobs.map Job.name, false, .empty⟩)
    (h := inTime jobs time deadline)
    (fun step => event_of_inTime)
    (fun name reply member => by
      obtain ⟨t, -, occurs⟩ := mem_inTime.mp member
      exact ⟨name_of_mem_timeline occurs, rfl⟩)
    (List.pairwise_map.mpr (allowed.filter _))
  obtain ⟨results, looked⟩ := steps?_looks
    ⟨workers₁, [], jobs.map Job.name, ended₁, jobs.map Job.name, true, .empty⟩ rfl rfl
  have open_ : ∀ name reply, .finish name reply ∈ tooLate jobs time deadline →
      name ∈ jobs.map Job.name ∧ ended₁ name = none := by
    intro name reply member
    obtain ⟨t, -, occurs⟩ := mem_tooLate.mp member
    obtain ⟨up, unended⟩ := unended_of_tooLate distinct member
    exact ⟨name_of_mem_timeline occurs, (kept up name unended).trans rfl⟩
  obtain ⟨workers₂, ended₂, late, -⟩ := steps?_events
    (g := ⟨workers₁, [], jobs.map Job.name, ended₁, [], true, results⟩)
    (h := tooLate jobs time deadline)
    (fun step => event_of_tooLate)
    open_ (List.pairwise_map.mpr (allowed.filter _))
  have taken : (begin workers (jobs.map Job.name)).steps? (chronicle jobs time deadline) =
      some ⟨workers₂, [], jobs.map Job.name, ended₂, [], true, results⟩ := by
    have all : List.replicate jobs.length Step.spawn =
        List.replicate (begin workers (jobs.map Job.name)).unspawned.length .spawn := by
      rw [begin, List.length_map]
    have looks : (jobs.map fun j => Step.look j.name) = (jobs.map Job.name).map .look := by
      rw [List.map_map, Function.comp_def]
    rw [chronicle, steps?_append, all, spawned, Option.bind_some, steps?_append]
    simp only [begin, List.nil_append]
    rw [early, Option.bind_some, steps?, step?, Option.bind_some, steps?_append, looks, looked,
      Option.bind_some, late]
  have truthful := (truthful_begin owned _).steps ascending taken
  have returned := truthful.isOver_iff.mpr (looked_chronicle jobs time deadline)
  refine ⟨_, taken, returned, ?_⟩
  rw [(truthful.entries_of_isOver returned).1, List.map_map, List.nil_append]
  refine List.map_congr_left fun j member => ?_
  rw [Function.comp_apply, sentence_of_fate (fate?_chronicle distinct member (own j member))]

end Gathering

end HealthWatch
