import HealthWatch.Proofs.Text.Tokens
import HealthWatch.Verdict
import Mathlib.Data.List.Induction

/-!
# Verdicts as they are made and shown

A verdict is made in one of several ways and may then be given messages and measurements.
`kept_and_shown` says what is left of all this, and which verdicts are displayed alike: the status
and the message can be read from what is displayed (`readDisplay?_display`), and nothing else is in
it.
-/

namespace HealthWatch

theorem Status.ofName?_name (s : Status) : ofName? s.name = some s := by
  cases s <;> rfl

/-- The texts of a cause in one line: each context stands before what it was put around. -/
def Cause.told (c : Cause) : String :=
  c.contexts.foldl (fun inner context => context ++ ": " ++ inner) c.root

theorem Cause.message_eq_told (c : Cause) : c.message = c.told := by
  obtain ⟨root, contexts⟩ := c
  induction contexts using List.reverseRecOn with
  | nil => exact String.intercalate_singleton
  | append_singleton contexts context ih =>
    have inner : contexts.reverse ++ [root] ≠ [] := List.append_ne_nil_of_right_ne_nil _ (by simp)
    have outer : message ⟨root, contexts ++ [context]⟩ =
        context ++ ": " ++ message ⟨root, contexts⟩ := by
      rw [message, chain, List.reverse_append, List.reverse_singleton]
      exact String.intercalate_cons_of_ne_nil inner
    rw [outer, ih, told, told, List.foldl_append]
    rfl

theorem getLast?_filterMap_concat {α β : Type} (f : α → Option β) (l : List α) (x : α) :
    ((l ++ [x]).filterMap f).getLast? = (f x).or (l.filterMap f).getLast? := by
  rw [List.filterMap_append, List.getLast?_append]
  cases written : f x with
  | none => rw [List.filterMap_cons_none written]; rfl
  | some y => rw [List.filterMap_cons_some written]; rfl

namespace Verdict

/-! ### Making -/

inductive Origin where
  | new (status : Status) (note : Option String)
  | healthy
  | ok (message : String)
  | warning (message : String)
  | critical (message : String)
  | unknown (message : String)
  | failed (cause : Cause)
  | failedWith (status : Status) (cause : Cause)
  | timedOut

namespace Origin

def verdict : Origin → Verdict
  | new status note => .new status note
  | healthy => .healthy
  | ok message => .ok message
  | warning message => .warning message
  | critical message => .critical message
  | unknown message => .unknown message
  | failed cause => .failed cause
  | failedWith status cause => .failedWith status cause
  | timedOut => .timedOut

def status : Origin → Status
  | new status _ | failedWith status _ => status
  | healthy | ok _ => .ok
  | warning _ => .warning
  | critical _ | failed _ | timedOut => .critical
  | unknown _ => .unknown

def note? : Origin → Option String
  | new _ note => note
  | ok message | warning message | critical message | unknown message => some message
  | timedOut => some "health check timed out"
  | healthy | failed _ | failedWith .. => none

def cause? : Origin → Option Cause
  | failed cause | failedWith _ cause => some cause
  | _ => none

theorem verdict_eq (o : Origin) : o.verdict = ⟨o.status, o.note?, o.cause?, none⟩ := by
  cases o <;> rfl

end Origin

/-! ### Revising -/

inductive Revision where
  | message (text : String)
  | data (measurement : Measurement)

def Revision.text? : Revision → Option String
  | message text => some text
  | data _ => none

def Revision.measurement? : Revision → Option Measurement
  | message _ => none
  | data measurement => some measurement

def revise (v : Verdict) : Revision → Verdict
  | .message text => v.withMessage text
  | .data measurement => v.withData measurement

def reviseAll (v : Verdict) (revisions : List Revision) : Verdict :=
  revisions.foldl revise v

theorem revise_eq (v : Verdict) (revision : Revision) : v.revise revision =
    ⟨v.status, revision.text?.or v.note, v.cause, revision.measurement?.or v.data⟩ := by
  cases revision <;> rfl

theorem reviseAll_eq (v : Verdict) (revisions : List Revision) : v.reviseAll revisions =
    ⟨v.status, (revisions.filterMap Revision.text?).getLast?.or v.note, v.cause,
      (revisions.filterMap Revision.measurement?).getLast?.or v.data⟩ := by
  induction revisions using List.reverseRecOn with
  | nil => rfl
  | append_singleton revisions revision ih =>
    have last : v.reviseAll (revisions ++ [revision]) = (v.reviseAll revisions).revise revision :=
      List.foldl_append
    rw [last, revise_eq, ih, getLast?_filterMap_concat, getLast?_filterMap_concat, Option.or_assoc,
      Option.or_assoc]

theorem message?_eq (v : Verdict) : v.message? = v.note.or (v.cause.map Cause.told) := by
  unfold message?
  rw [← funext Cause.message_eq_told]
  cases v.note <;> rfl

/-! ### Displaying -/

/-- Reads what is displayed: the name of a status up to a colon, and the message behind it. -/
def readDisplay? (text : String) : Option (Status × Option String) :=
  (Status.ofName? (.ofList (text.toList.takeWhile (· != ':')))).map fun status =>
    match text.toList.dropWhile (· != ':') with
    | ':' :: ' ' :: message => (status, some (.ofList message))
    | _ => (status, none)

theorem split_name (s : Status) (rest : List Char) (colon : ∀ c ∈ rest.head?, c = ':') :
    (s.name.toList ++ rest).takeWhile (· != ':') = s.name.toList ∧
      (s.name.toList ++ rest).dropWhile (· != ':') = rest := by
  have plain : ∀ c ∈ s.name.toList, (c != ':') = true :=
    List.all_eq_true.mp (by cases s <;> rfl)
  have apart : ∀ c ∈ rest.head?, (c != ':') = false := fun c first => by rw [colon c first]; rfl
  have behind := Text.dropWhile_append_of_head plain apart
  have whole := List.takeWhile_append_dropWhile (p := (· != ':')) (l := s.name.toList ++ rest)
  rw [behind] at whole
  exact ⟨List.append_cancel_right whole, behind⟩

theorem readDisplay?_display (v : Verdict) :
    readDisplay? v.display = some (v.status, v.message?) := by
  unfold display readDisplay?
  cases v.message? with
  | none =>
    obtain ⟨name, rest⟩ := split_name v.status [] (by simp)
    rw [List.append_nil] at name rest
    simp only [name, rest, String.ofList_toList, Status.ofName?_name, Option.map_some]
  | some message =>
    obtain ⟨name, rest⟩ := split_name v.status (':' :: ' ' :: message.toList) (by simp)
    have shown : (v.status.name ++ ": " ++ message).toList =
        v.status.name.toList ++ ':' :: ' ' :: message.toList := by
      rw [String.toList_append, String.toList_append, List.append_assoc]
      rfl
    simp only [shown, name, rest, String.ofList_toList, Status.ofName?_name, Option.map_some]

theorem display_eq_iff {v w : Verdict} :
    v.display = w.display ↔ v.status = w.status ∧ v.message? = w.message? := by
  constructor
  · intro same
    have read := congrArg readDisplay? same
    rw [readDisplay?_display, readDisplay?_display] at read
    exact Prod.mk.inj (Option.some.inj read)
  · rintro ⟨status, message⟩
    rw [display, display, status, message]

/-- A verdict keeps the status and the cause it was made with. Its message is the last one it was
given, or that which it was made with, or that of the cause; its data are those it was given last.
Two verdicts are displayed alike exactly if they have the same status and the same message, and an
empty message is not the same as none. -/
theorem kept_and_shown (o : Origin) (revisions : List Revision) (v w : Verdict) :
    let made := o.verdict.reviseAll revisions
    (made.status = o.status ∧ made.cause = o.cause? ∧
      made.message? = (revisions.filterMap Revision.text?).getLast?.or
        (o.note?.or (o.cause?.map Cause.told)) ∧
      made.data = (revisions.filterMap Revision.measurement?).getLast?) ∧
    (v.display = w.display ↔ v.status = w.status ∧ v.message? = w.message?) ∧
    ∀ status, (new status (some "")).display ≠ (new status none).display := by
  intro made
  have kept : made = ⟨o.status, (revisions.filterMap Revision.text?).getLast?.or o.note?, o.cause?,
      (revisions.filterMap Revision.measurement?).getLast?⟩ := by
    rw [show made = _ from reviseAll_eq .., o.verdict_eq, Option.or_none]
  refine ⟨⟨?status, ?cause, ?message, ?data⟩, display_eq_iff, fun status alike => ?empty⟩
  case status => rw [kept]
  case cause => rw [kept]
  case message => rw [message?_eq, kept, Option.or_assoc]
  case data => rw [kept]
  case empty => cases (display_eq_iff.mp alike).2

example : (failedWith .unknown ⟨"refused", ["query", "WARNING"]⟩).display =
    "UNKNOWN: WARNING: query: refused" := by decide +kernel

example : ((Origin.failed ⟨"refused", ["query"]⟩).verdict.reviseAll
    [.message "down", .data ⟨"5", []⟩, .message ""]).display = "CRITICAL: " := by decide +kernel

end Verdict

end HealthWatch
