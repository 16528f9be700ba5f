import HealthWatch.Proofs.Evaluation.Calls
import HealthWatch.Proofs.Fanout.Serial

/-!
# Checks inside time limits

`Probe.within` puts a check inside time limits, one around another. A check that ends within all of
them ends as it does alone (`settled_within_of_inTime`). One that is later than one of them is given
up, and nothing of its end happens (`settled_within_of_late`).
-/

namespace HealthWatch

namespace Course

variable {c : Course} {ms after : Nat} {inner : Probe}

def Late (c : Course) (ms : Nat) : Prop :=
  ∀ after ∈ c.after?, ms < after

@[simp] theorem late_never (ms : Nat) : never.Late ms := fun _ none => nomatch none

@[simp] theorem late_ends {effects : List Effect} {outcome : Outcome} :
    (ends after effects outcome).Late ms ↔ ms < after := by
  simp [Late, after?]

@[simp] theorem late_stored {key : Cell.Key} : (c.stored key inner).Late ms ↔ c.Late ms := by
  cases c with
  | never => rfl
  | ends after effects outcome =>
    rw [stored]
    split <;> simp

/-- A time limit has given up the check inside it. -/
def overrun (ms : Nat) : Course :=
  .ends ms [.overran ms] (.verdict .timedOut)

theorem limited_of_late (late : c.Late ms) (inner : Probe) : c.limited ms inner = overrun ms := by
  cases c with
  | never => rfl
  | ends after effects outcome => exact if_neg (Nat.not_le.mpr (late_ends.mp late))

theorem limited_of_inTime {effects : List Effect} {outcome : Outcome} (inTime : after ≤ ms) :
    (Course.ends after effects outcome).limited ms inner =
      .ends after effects (inner.reply outcome).outcome :=
  if_pos inTime

theorem limited_overrun (guarded : inner.Guarded) (ms more : Nat) :
    (overrun ms).limited more inner = overrun (min ms more) := by
  rcases Nat.lt_or_ge more ms with late | inTime
  · rw [Nat.min_eq_right (Nat.le_of_lt late)]
    exact limited_of_late (late_ends.mpr late) inner
  · rw [Nat.min_eq_left inTime, overrun, limited_of_inTime inTime, guarded]
    rfl

end Course

namespace Probe

variable {p : Probe} {limits : List Nat} {w : World}

/-- The check inside time limits, the last of them around it and the first around all. -/
def within (p : Probe) (limits : List Nat) : Probe :=
  limits.foldr .limit p

theorem within_cons (p : Probe) (ms : Nat) (limits : List Nat) :
    p.within (ms :: limits) = .limit ms (p.within limits) := rfl

theorem guarded_within (guarded : p.Guarded) (limits : List Nat) : (p.within limits).Guarded := by
  cases limits with
  | nil => exact guarded
  | cons ms rest => exact fun _ => rfl

theorem begin_within (p : Probe) (limits : List Nat) (w : World) :
    ((p.within limits).begin w).1 = (p.begin w).1 := by
  induction limits with
  | nil => rfl
  | cons ms rest ih => exact ih

/-- In time, the check ends as it does alone; what is not a verdict becomes one. -/
theorem course_within_of_inTime (guarded : p.Guarded) {after : Nat} {effects : List Effect}
    {outcome : Outcome} (course : (p.begin w).2 = .ends after effects outcome)
    (inTime : ∀ ms ∈ limits, after ≤ ms) :
    ∃ told, ((p.within limits).begin w).2 = .ends after effects told ∧
      ∀ v, outcome = .verdict v → told = .verdict v := by
  induction limits with
  | nil => exact ⟨outcome, course, fun _ same => same⟩
  | cons ms rest ih =>
    obtain ⟨first, later⟩ := List.forall_mem_cons.mp inTime
    obtain ⟨told, ends, kept⟩ := ih later
    refine ⟨.verdict told.caught, ?_, fun v same => ?_⟩
    · rw [within_cons, begin_limit, ends, Course.limited_of_inTime first, guarded_within guarded]
      rfl
    · rw [kept v same, Outcome.caught]

theorem course_within_of_late (guarded : p.Guarded)
    (late : ∃ ms ∈ limits, (p.begin w).2.Late ms) :
    ∃ ms, ((p.within limits).begin w).2 = .overrun ms := by
  induction limits with
  | nil => simp at late
  | cons ms rest ih =>
    rw [within_cons, begin_limit]
    by_cases inside : ∃ ms ∈ rest, (p.begin w).2.Late ms
    · obtain ⟨earlier, course⟩ := ih inside
      exact ⟨min earlier ms, by rw [course, Course.limited_overrun (guarded_within guarded rest)]⟩
    · -- No limit inside gives it up, so that it comes to the outermost one as it is.
      have own : (p.begin w).2.Late ms := by
        obtain ⟨_, member, overdue⟩ := late
        rcases List.mem_cons.mp member with rfl | member
        · exact overdue
        · exact absurd ⟨_, member, overdue⟩ inside
      refine ⟨ms, Course.limited_of_late ?_ _⟩
      cases course : (p.begin w).2 with
      | never =>
        cases rest with
        | nil => rwa [within, List.foldr_nil]
        | cons other _ => simp [course] at inside
      | ends after effects outcome =>
        simp only [course, Course.late_ends] at own inside
        have inTime : ∀ ms ∈ rest, after ≤ ms := by simpa using inside
        obtain ⟨told, ends, -⟩ := course_within_of_inTime guarded course inTime
        rwa [ends, Course.late_ends]

theorem settled_within_of_inTime (guarded : p.Guarded) {after : Nat} {effects : List Effect}
    {outcome : Outcome} (course : (p.begin w).2 = .ends after effects outcome)
    (inTime : ∀ ms ∈ limits, after ≤ ms) : (p.within limits).settled w = p.settled w := by
  obtain ⟨told, ends, -⟩ := course_within_of_inTime guarded course inTime
  rw [settled, settled, begin_within, ends, course]
  rfl

theorem settled_within_of_late (guarded : p.Guarded)
    (late : ∃ ms ∈ limits, (p.begin w).2.Late ms) :
    (p.within limits).settled w = (p.begin w).1 := by
  obtain ⟨ms, course⟩ := course_within_of_late guarded late
  rw [settled, begin_within, course]
  rfl

end Probe

end HealthWatch
