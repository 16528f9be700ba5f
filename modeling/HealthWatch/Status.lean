import HealthWatch.Json.Basic

/-!
# Statuses

A `Status` rates a check. Statuses are ordered by severity, in which an unknown status ranks below a
critical one; the numeric code for monitoring tools follows a table of its own. `worst` is the most
severe of many statuses: `le_worst` and `worst_le` say that it is their least upper bound.
-/

namespace HealthWatch

inductive Status where
  | ok
  | warning
  | unknown
  | critical
  deriving DecidableEq, Repr

namespace Status

/-- The rank in the order of severity. -/
def severity : Status → Nat
  | .ok => 0
  | .warning => 1
  | .unknown => 2
  | .critical => 3

instance : LE Status := ⟨fun a b => a.severity ≤ b.severity⟩
instance : LT Status := ⟨fun a b => a.severity < b.severity⟩
instance (a b : Status) : Decidable (a ≤ b) :=
  inferInstanceAs (Decidable (a.severity ≤ b.severity))
instance (a b : Status) : Decidable (a < b) :=
  inferInstanceAs (Decidable (a.severity < b.severity))
instance : Ord Status := ⟨fun a b => compare a.severity b.severity⟩

def all : List Status := [.ok, .warning, .unknown, .critical]

def code : Status → Nat
  | .ok => 0
  | .warning => 1
  | .critical => 2
  | .unknown => 3

def ofCode? (code : Nat) : Option Status :=
  all.find? (·.code == code)

def name : Status → String
  | .ok => "OK"
  | .warning => "WARNING"
  | .unknown => "UNKNOWN"
  | .critical => "CRITICAL"

def ofName? (name : String) : Option Status :=
  all.find? (·.name == name)

def ofJson? (j : Json) : Option Status :=
  j.toName?.bind ofName?

/-- Only `ok` counts as healthy. -/
def isOk (s : Status) : Bool :=
  s == .ok

def worse (a b : Status) : Status :=
  if a ≤ b then b else a

/-- The most severe of many statuses; `ok` if there is none. -/
def worst (statuses : List Status) : Status :=
  statuses.foldl worse .ok

/-! ### The order -/

theorem severity_injective {a b : Status} (h : a.severity = b.severity) : a = b := by
  cases a <;> cases b <;> first | rfl | contradiction

theorem le_refl (a : Status) : a ≤ a := Nat.le_refl _

theorem le_trans {a b c : Status} (h : a ≤ b) (h' : b ≤ c) : a ≤ c := Nat.le_trans h h'

theorem le_antisymm {a b : Status} (h : a ≤ b) (h' : b ≤ a) : a = b :=
  severity_injective (Nat.le_antisymm h h')

theorem ok_le (a : Status) : ok ≤ a := Nat.zero_le _

theorem worse_le_iff {a b c : Status} : worse a b ≤ c ↔ a ≤ c ∧ b ≤ c := by
  unfold worse
  split
  · rename_i h
    exact ⟨fun h' => ⟨le_trans h h', h'⟩, fun h' => h'.2⟩
  · rename_i h
    have hba : b ≤ a := Nat.le_of_lt (Nat.lt_of_not_le h)
    exact ⟨fun h' => ⟨h', le_trans hba h'⟩, fun h' => h'.1⟩

theorem foldl_worse_le_iff {acc c : Status} {l : List Status} :
    l.foldl worse acc ≤ c ↔ acc ≤ c ∧ ∀ s ∈ l, s ≤ c := by
  induction l generalizing acc with
  | nil => simp
  | cons s l ih => simp [ih, worse_le_iff, and_assoc]

/-- `worst` is the least upper bound of the statuses. -/
theorem worst_le_iff {c : Status} {l : List Status} : worst l ≤ c ↔ ∀ s ∈ l, s ≤ c := by
  simp [worst, foldl_worse_le_iff, ok_le]

theorem le_worst {s : Status} {l : List Status} (h : s ∈ l) : s ≤ worst l :=
  worst_le_iff.mp (le_refl _) s h

end Status

end HealthWatch
