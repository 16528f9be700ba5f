import HealthWatch.Settings.Load
import Mathlib.Data.List.Induction
import Mathlib.Data.List.TakeDrop

/-!
# Layers over each other

A layer changes what a table holds under a name by those of its entries alone that are rooted there
(`lookup_layAll`). For a number only two of them count: the last entry of that very key, unless it
is an empty table, and any entry that leads further into the value, which leaves no number
(`given?_of_word`). `ofTable?_eq` reads the settings off a table one by one.
-/

namespace HealthWatch.Settings

/-! ### The roots of entries -/

def root (key : String) : String :=
  (Key.ofText (Text.lowercase key)).head

def rootedAt (name : String) (layer : List (String × Node)) : List (String × Node) :=
  layer.filter fun e => root e.1 = name

namespace Key

theorem readSteps?_eq_nil {cs : List Char} (read : readSteps? cs.length cs = some []) : cs = [] := by
  cases cs with
  | nil => rfl
  | cons c rest =>
    rw [List.length_cons, readSteps?.eq_def] at read
    split at read
    · assumption
    · obtain ⟨_, _, read⟩ := Option.bind_eq_some_iff.mp read
      obtain ⟨_, _, read⟩ := Option.bind_eq_some_iff.mp read
      cases read
    · split at read
      · obtain ⟨_, _, read⟩ := Option.bind_eq_some_iff.mp read
        obtain ⟨_, _, read⟩ := Option.bind_eq_some_iff.mp read
        cases read
      · cases read
    · cases read

theorem readName?_all {cs : List Char} {name : String} (read : readName? cs = some (name, [])) :
    name = String.ofList cs := by
  rw [readName?, List.span_eq_takeWhile_dropWhile] at read
  split at read
  · cases read
  · rename_i front rest _ split
    obtain ⟨rfl, rfl⟩ := Prod.mk.inj (Option.some.inj read)
    obtain ⟨taken, dropped⟩ := Prod.mk.inj split
    have whole := List.takeWhile_append_dropWhile (p := isNameChar) (l := cs)
    rw [taken, dropped, List.append_nil] at whole
    rw [whole]

/-- A key without steps is the whole text. -/
theorem head_of_stepless {text : String} (stepless : (ofText text).steps = []) :
    (ofText text).head = text := by
  rw [ofText] at stepless ⊢
  cases read : read? text with
  | none => rfl
  | some key =>
    rw [read, Option.getD_some] at stepless
    obtain ⟨⟨head, cs⟩, named, read⟩ := Option.bind_eq_some_iff.mp read
    obtain ⟨steps, further, made⟩ := Option.bind_eq_some_iff.mp read
    obtain rfl := Option.some.inj made
    obtain rfl : steps = [] := stepless
    obtain rfl := readSteps?_eq_nil further
    exact (readName?_all named).trans String.ofList_toList

end Key

/-! ### Laying a layer -/

namespace Node

def laid (old : Option Node) (e : String × Node) : Option Node :=
  some (place e.2 (Key.ofText (Text.lowercase e.1)).steps old)

theorem lookup_lay (table : List (String × Node)) (e : String × Node) (name : String) :
    (lay table e).lookup name =
      if root e.1 = name then laid (table.lookup name) e else table.lookup name := by
  rw [lay, Keyed.lookup_put]
  by_cases same : root e.1 = name
  · subst same
    simp [root, laid]
  · rw [if_neg same]
    exact if_neg (Ne.symm same)

theorem lookup_layAll (table layer : List (String × Node)) (name : String) :
    (layAll table layer).lookup name = (rootedAt name layer).foldl laid (table.lookup name) := by
  induction layer generalizing table with
  | nil => rfl
  | cons e rest ih =>
    refine (ih (lay table e)).trans ?_
    rw [lookup_lay, rootedAt, rootedAt, List.filter_cons]
    by_cases same : root e.1 = name
    · simp [same]
    · simp [same]

def isHollow : Node → Bool
  | .table [] => true
  | _ => false

/-- What an entry gives to a key. -/
def offer? (key : String) (e : String × Node) : Option Node :=
  if Text.lowercase e.1 = key && !e.2.isHollow then some e.2 else none

/-- What a layer gives to a key: its last entry under the key, empty tables not counted. -/
def given? (layer : List (String × Node)) (key : String) : Option Node :=
  layer.reverse.findSome? (offer? key)

theorem given?_snoc (layer : List (String × Node)) (e : String × Node) (key : String) :
    given? (layer ++ [e]) key = (offer? key e).or (given? layer key) := by
  rw [given?, List.reverse_append]
  cases offered : offer? key e with
  | none => simp [offered, given?]
  | some n => simp [offered]

theorem toWord?_place {steps : List Key.Step} (further : steps ≠ []) (n : Node)
    (old : Option Node) : (place n steps old).toWord? = none := by
  cases steps with
  | nil => exact absurd rfl further
  | cons step steps =>
    cases step with
    | entry name => rfl
    | item i => cases steps <;> rfl

theorem merge_of_word {n : Node} {old : Option Node} {word : UInt64}
    (read : (merge old n).toWord? = some word) :
    n.isHollow = true ∧ old = some (merge old n) ∨ n.isHollow = false ∧ merge old n = n := by
  cases n with
  | table entries =>
    cases entries with
    | nil =>
      cases old with
      | none => cases read
      | some n => exact .inl ⟨rfl, rfl⟩
    | cons e es => cases read
  | _ => exact .inr ⟨rfl, rfl⟩

/-- A number is what the layer gives to its key, if it gives anything, and else what it was. -/
theorem given?_of_word {table layer : List (String × Node)} {key : String} {n : Node} {word : UInt64}
    (plain : Key.ofText key = ⟨key, []⟩) (found : (layAll table layer).lookup key = some n)
    (read : n.toWord? = some word) : (given? layer key).or (table.lookup key) = some n := by
  -- From the end of the layer: an entry that does not decide leaves the value to those before it.
  induction layer using List.reverseRecOn generalizing n with
  | nil => exact found
  | append_singleton front e ih =>
    rw [layAll, List.foldl_append, List.foldl_cons, List.foldl_nil, ← layAll, lookup_lay] at found
    rw [given?_snoc, Option.or_assoc]
    by_cases rooted : root e.1 = key
    · rw [if_pos rooted, laid] at found
      obtain rfl := Option.some.inj found
      by_cases stepless : (Key.ofText (Text.lowercase e.1)).steps = []
      · have whole : Text.lowercase e.1 = key := (Key.head_of_stepless stepless).symm.trans rooted
        rw [stepless, place] at read ⊢
        rcases merge_of_word read with ⟨hollow, old⟩ | ⟨solid, new⟩
        · have nothing : offer? key e = none := by simp [offer?, hollow]
          rw [nothing, Option.none_or]
          exact ih old read
        · have offered : offer? key e = some e.2 := by simp [offer?, whole, solid]
          rw [offered, Option.some_or, new]
      · rw [toWord?_place stepless] at read
        cases read
    · rw [if_neg rooted] at found
      have other : Text.lowercase e.1 ≠ key := by
        intro same
        rw [root, same, plain] at rooted
        exact rooted rfl
      have nothing : offer? key e = none := by simp [offer?, other]
      rw [nothing, Option.none_or]
      exact ih found read

end Node

/-! ### Reading a table -/

/-- The value of a key converted, or another one if the table does not have the key. -/
def converted? {α : Type} (table : List (String × Node)) (key : String)
    (convert : Node → Option α) (other : α) : Option α :=
  match table.lookup key with
  | none => some other
  | some n => convert n

theorem applyKey_eq {α : Type} (set : Settings → α → Settings) (get : Settings → α)
    (same : ∀ s, set s (get s) = s) (table : List (String × Node)) (key : String)
    (convert : Node → Option α) (s : Settings) :
    applyKey table key convert set s = (converted? table key convert (get s)).map (set s) := by
  rw [applyKey, converted?]
  cases table.lookup key with
  | none => rw [Option.map_some, same]
  | some n => rfl

theorem ofTable?_eq (table : List (String × Node)) : ofTable? table = (do
    let initialDelay ← converted? table "initial_delay_ms" Node.toWord? default.initialDelay
    let period ← converted? table "period_ms" Node.toWord? default.period
    let poolSize ← converted? table "pool_size" Node.toWord? default.poolSize
    let timeout ← converted? table "timeout_ms" Node.toWord? default.timeout
    let allowlist ← converted? table "checks" Node.toAllowlist? default.allowlist
    let skips ← converted? table "skips" Node.toSkips? default.skips
    return ⟨initialDelay, period, poolSize, timeout, allowlist, skips⟩) := by
  rw [ofTable?]
  simp only [applyKey_eq (fun s n => { s with initialDelay := n }) (·.initialDelay) fun _ => rfl,
    applyKey_eq (fun s n => { s with period := n }) (·.period) fun _ => rfl,
    applyKey_eq (fun s n => { s with poolSize := n }) (·.poolSize) fun _ => rfl,
    applyKey_eq (fun s n => { s with timeout := n }) (·.timeout) fun _ => rfl,
    applyKey_eq (fun s l => { s with allowlist := l }) (·.allowlist) fun _ => rfl,
    applyKey_eq (fun s m => { s with skips := m }) (·.skips) fun _ => rfl,
    Option.bind_eq_bind, Option.map_eq_bind, Function.comp_def, Option.bind_assoc, Option.bind_some,
    Option.pure_def]

end HealthWatch.Settings
