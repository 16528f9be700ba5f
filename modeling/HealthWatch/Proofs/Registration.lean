import HealthWatch.Proofs.NameMap
import HealthWatch.Proofs.Text.Tokens
import HealthWatch.Roster

/-!
# Registering checks

A roster is built call by call, each with a name and a check. Either all calls are accepted, or
there is a first one that is not (`registrable_or_stops`). `build_registers` says what becomes of a
sequence of calls in both cases.
-/

namespace HealthWatch

def Text.codePoints (s : String) : List Nat :=
  s.toList.map Char.toNat

theorem Text.codePoints_lt {a b : String} (before : a < b) : codePoints a < codePoints b := by
  refine List.map_lt (fun c d below => ?_) (String.lt_iff.mp before)
  exact UInt32.lt_iff_toNat_lt.mp (Char.lt_def.mp below)

theorem NameMap.codePoints_names {α : Type} (m : NameMap α) :
    (m.names.map Text.codePoints).Pairwise (· < ·) :=
  List.pairwise_map.mpr (m.ascending_names.imp Text.codePoints_lt)

namespace Roster

variable {calls calls' : List (String × Probe)} {e : String × Probe} {r : Roster} {name : String}
  {taken taken' : List String} {problem : SetupFault} {fault : Fault}

/-! ### One call -/

/-- Why a call is refused: its name is blank, or else it is among those that are taken. -/
inductive Refused (taken : List String) (name : String) : SetupFault → Prop
  | blank (nothing : Text.trim name = "") : Refused taken name .blankCheckName
  | twice (visible : Text.trim name ≠ "") (known : name ∈ taken) :
      Refused taken name (.duplicateCheck name)

theorem Refused.congr (refused : Refused taken name problem)
    (same : name ∈ taken ↔ name ∈ taken') : Refused taken' name problem := by
  cases refused with
  | blank nothing => exact .blank nothing
  | twice visible known => exact .twice visible (same.mp known)

theorem register_refused (refused : Refused r.names name problem) (p : Probe) :
    r.register name p = .error (.invalidSetup problem) := by
  unfold register
  cases refused with
  | blank nothing => rw [if_pos (Text.blank_iff.mpr nothing)]
  | twice visible known =>
    have shown : ¬Text.blank name = true := fun blank => visible (Text.blank_iff.mp blank)
    rw [if_neg shown, if_pos (NameMap.contains_iff.mpr known)]

theorem register_accepted (visible : Text.trim name ≠ "") (fresh : name ∉ r.names) (p : Probe) :
    r.register name p = .ok ⟨r.checks.insert name p⟩ := by
  have shown : ¬Text.blank name = true := fun blank => visible (Text.blank_iff.mp blank)
  have missing : ¬r.checks.contains name = true := fun known => fresh (NameMap.contains_iff.mp known)
  unfold register
  rw [if_neg shown, if_neg missing]

/-! ### Calls one after another -/

/-- All calls are accepted: no name is blank, and none is given twice. -/
structure Registrable (calls : List (String × Probe)) : Prop where
  visible : ∀ e ∈ calls, Text.trim e.1 ≠ ""
  distinct : (calls.map (·.1)).Nodup

/-- The first call that is refused after those that were accepted, and why. -/
def Stops (calls : List (String × Probe)) (problem : SetupFault) : Prop :=
  ∃ earlier name p later, calls = earlier ++ (name, p) :: later ∧ Registrable earlier ∧
    Refused (earlier.map (·.1)) name problem

theorem registrable_concat : Registrable (calls ++ [e]) ↔
    Registrable calls ∧ Text.trim e.1 ≠ "" ∧ e.1 ∉ calls.map (·.1) := by
  have once : ((calls ++ [e]).map (·.1)).Nodup ↔
      (calls.map (·.1)).Nodup ∧ e.1 ∉ calls.map (·.1) := by
    rw [List.map_append, List.map_singleton, (List.perm_append_singleton _ _).nodup_iff,
      List.nodup_cons, and_comm]
  constructor
  · rintro ⟨visible, distinct⟩
    obtain ⟨before, last⟩ := List.forall_mem_append.mp visible
    obtain ⟨distinct, fresh⟩ := once.mp distinct
    exact ⟨⟨before, distinct⟩, last e List.mem_cons_self, fresh⟩
  · rintro ⟨⟨before, distinct⟩, visible, fresh⟩
    refine ⟨List.forall_mem_append.mpr ⟨before, ?_⟩, once.mpr ⟨distinct, fresh⟩⟩
    exact List.forall_mem_singleton.mpr visible

theorem Registrable.perm (registrable : Registrable calls) (perm : calls.Perm calls') :
    Registrable calls' where
  visible e member := registrable.visible e (perm.mem_iff.mpr member)
  distinct := (perm.map (·.1)).nodup_iff.mp registrable.distinct

theorem Registrable.entries (registrable : Registrable calls) :
    (NameMap.ofList calls).entries.Perm calls :=
  NameMap.entries_ofList_perm (List.pairwise_map.mp registrable.distinct)

theorem Registrable.mem_names (registrable : Registrable calls) :
    name ∈ (NameMap.ofList calls).names ↔ name ∈ calls.map (·.1) :=
  (registrable.entries.map (·.1)).mem_iff

theorem Stops.concat (stops : Stops calls problem) (e : String × Probe) :
    Stops (calls ++ [e]) problem := by
  obtain ⟨earlier, name, p, later, rfl, accepted, refused⟩ := stops
  exact ⟨earlier, name, p, later ++ [e], by simp, accepted, refused⟩

theorem registrable_or_stops (calls : List (String × Probe)) :
    Registrable calls ∨ ∃ problem, Stops calls problem := by
  induction calls using List.reverseRecOn with
  | nil => exact .inl ⟨List.forall_mem_nil _, List.nodup_nil⟩
  | append_singleton calls e ih =>
    rcases ih with accepted | ⟨problem, stops⟩
    · by_cases visible : Text.trim e.1 = ""
      · exact .inr ⟨_, calls, e.1, e.2, [], rfl, accepted, .blank visible⟩
      · by_cases known : e.1 ∈ calls.map (·.1)
        · exact .inr ⟨_, calls, e.1, e.2, [], rfl, accepted, .twice visible known⟩
        · exact .inl (registrable_concat.mpr ⟨accepted, visible, known⟩)
    · exact .inr ⟨problem, stops.concat e⟩

theorem build_append (calls later : List (String × Probe)) :
    build (calls ++ later) =
      build calls >>= fun r => later.foldlM (fun r e => r.register e.1 e.2) r :=
  List.foldlM_append

theorem build_registrable (registrable : Registrable calls) :
    build calls = .ok ⟨.ofList calls⟩ := by
  induction calls using List.reverseRecOn with
  | nil => rfl
  | append_singleton calls e ih =>
    obtain ⟨accepted, visible, fresh⟩ := registrable_concat.mp registrable
    have free : e.1 ∉ (NameMap.ofList calls).names := fun known =>
      fresh (accepted.mem_names.mp known)
    have last := register_accepted (r := ⟨.ofList calls⟩) visible free e.2
    rw [build_append, ih accepted, NameMap.ofList_concat]
    simp only [bind, Except.bind, List.foldlM_cons, List.foldlM_nil, last]
    rfl

theorem build_stops (stops : Stops calls problem) :
    build calls = .error (.invalidSetup problem) := by
  obtain ⟨earlier, name, p, later, rfl, accepted, refused⟩ := stops
  have first := register_refused (r := ⟨.ofList earlier⟩) (refused.congr accepted.mem_names.symm) p
  rw [build_append, build_registrable accepted]
  simp only [bind, Except.bind, List.foldlM_cons, first]

theorem build_eq_ok_iff : build calls = .ok r ↔ Registrable calls ∧ r = ⟨.ofList calls⟩ := by
  constructor
  · intro built
    rcases registrable_or_stops calls with accepted | ⟨problem, stops⟩
    · exact ⟨accepted, Except.ok.inj (built.symm.trans (build_registrable accepted))⟩
    · cases built.symm.trans (build_stops stops)
  · rintro ⟨accepted, rfl⟩
    exact build_registrable accepted

theorem build_eq_error_iff :
    build calls = .error fault ↔ ∃ problem, Stops calls problem ∧ fault = .invalidSetup problem := by
  constructor
  · intro failed
    rcases registrable_or_stops calls with accepted | ⟨problem, stops⟩
    · cases failed.symm.trans (build_registrable accepted)
    · exact ⟨problem, stops, Except.error.inj (failed.symm.trans (build_stops stops))⟩
  · rintro ⟨problem, stops, rfl⟩
    exact build_stops stops

/-- A roster is built exactly if no name is blank and no two are equal. Otherwise the first call
that is refused decides the fault: its name is blank or, if it is not, an earlier call has it. A
roster that is built lists the names by code point, one for each call. It finds the check of a call
under its name, and no other check; the order of the calls does not matter. -/
theorem build_registers (calls : List (String × Probe)) :
    ((∃ r, build calls = .ok r) ↔
      (∀ e ∈ calls, Text.trim e.1 ≠ "") ∧ (calls.map (·.1)).Nodup) ∧
    (∀ fault, build calls = .error fault ↔
      ∃ problem, Stops calls problem ∧ fault = .invalidSetup problem) ∧
    (∀ r name p, Text.trim name = "" →
      register r name p = .error (.invalidSetup .blankCheckName)) ∧
    ∀ r, build calls = .ok r →
      (r.names.map Text.codePoints).Pairwise (· < ·) ∧ r.size = calls.length ∧
      (∀ name p, r.get? name = some p ↔ (name, p) ∈ calls) ∧
      ∀ calls', calls.Perm calls' → build calls' = .ok r := by
  refine ⟨⟨?accepted, ?built⟩, fun fault => build_eq_error_iff,
    fun r name p nothing => register_refused (.blank nothing) p, fun r built => ?holds⟩
  case accepted =>
    rintro ⟨r, built⟩
    obtain ⟨⟨visible, distinct⟩, -⟩ := build_eq_ok_iff.mp built
    exact ⟨visible, distinct⟩
  case built =>
    rintro ⟨visible, distinct⟩
    exact ⟨_, build_registrable ⟨visible, distinct⟩⟩
  case holds =>
    obtain ⟨registrable, rfl⟩ := build_eq_ok_iff.mp built
    refine ⟨NameMap.codePoints_names _, registrable.entries.length_eq, fun name p => ?_,
      fun calls' perm => ?_⟩
    · exact NameMap.find?_eq_some_iff.trans registrable.entries.mem_iff
    · rw [NameMap.ofList_perm (List.pairwise_map.mp registrable.distinct) perm]
      exact build_registrable (registrable.perm perm)

def pinged : Probe :=
  .leaf (.ofList "ping" [.finish 5 (.verdict .healthy)] true)

/-- Names that are easily taken for each other or for blank ones, two of them for one check. -/
def lookalikes : List (String × Probe) :=
  [("😀", .limit 9 pinged), ("db", pinged), ("\uffff", .skip ⟨0, "db"⟩ 2 pinged),
    ("\u00a0db", .limit 3 pinged), ("\u200b", .skip ⟨1, "db"⟩ 4 pinged), ("DB", pinged)]

/-- Blank characters around a name and capitals tell it from others, and a zero width space is not
blank. Of two calls that are refused the first one decides, and a blank name is refused as such even
where it is taken. -/
theorem build_registers_lookalikes :
    (∃ r, build lookalikes = .ok r ∧
      r.names = ["DB", "db", "\u00a0db", "\u200b", "\uffff", "😀"] ∧ r.size = 6 ∧
      r.get? "DB" = some pinged ∧ r.get? "db" = some pinged ∧ build lookalikes.reverse = .ok r) ∧
    build (lookalikes ++ [("db", pinged), ("\u2003\t", pinged)]) =
      .error (.invalidSetup (.duplicateCheck "db")) ∧
    build (lookalikes ++ [("\u2003\t", pinged), ("db", pinged)]) =
      .error (.invalidSetup .blankCheckName) ∧
    register ⟨.ofList [(" ", pinged)]⟩ " " pinged = .error (.invalidSetup .blankCheckName) := by
  have registrable : Registrable lookalikes := ⟨by decide +kernel, by decide +kernel⟩
  have built : build lookalikes = .ok ⟨.ofList lookalikes⟩ := build_registrable registrable
  obtain ⟨-, -, precedence, holds⟩ := build_registers lookalikes
  obtain ⟨-, size, found, reordered⟩ := holds _ built
  have names : (NameMap.ofList lookalikes).names =
      ["DB", "db", "\u00a0db", "\u200b", "\uffff", "😀"] := by decide +kernel
  have capital := (found "DB" pinged).mpr (by simp [lookalikes])
  have small := (found "db" pinged).mpr (by simp [lookalikes])
  have twice := ((build_registers (lookalikes ++ [("db", pinged), ("\u2003\t", pinged)])).2.1 _).mpr
    ⟨_, ⟨lookalikes, "db", pinged, _, rfl, registrable, .twice (by decide) (by decide)⟩, rfl⟩
  have blank := ((build_registers (lookalikes ++ [("\u2003\t", pinged), ("db", pinged)])).2.1 _).mpr
    ⟨_, ⟨lookalikes, "\u2003\t", pinged, _, rfl, registrable, .blank (by decide)⟩, rfl⟩
  exact ⟨⟨_, built, names, size, capital, small, reordered _ (List.reverse_perm _).symm⟩, twice, blank,
    precedence _ " " pinged (by decide)⟩

end Roster

end HealthWatch
