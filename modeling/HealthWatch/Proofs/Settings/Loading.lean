import HealthWatch.Proofs.Settings.Layers
import HealthWatch.Proofs.Text.Lowercase
import HealthWatch.Settings.Document

/-!
# Loading in layers

`load_layered` says where each setting comes from: a number from its variable, or else from its key
in the file, or else from the defaults. An empty table in the file counts for nothing
(`hollow_key_ignored`). What is not rooted at a setting does not touch it.
-/

namespace HealthWatch.Settings

/-! ### The settings that are numbers -/

inductive Figure where
  | initialDelay
  | period
  | poolSize
  | timeout
  deriving DecidableEq, Repr

def Figure.key : Figure → String
  | .initialDelay => "initial_delay_ms"
  | .period => "period_ms"
  | .poolSize => "pool_size"
  | .timeout => "timeout_ms"

def figure (s : Settings) : Figure → UInt64
  | .initialDelay => s.initialDelay
  | .period => s.period
  | .poolSize => s.poolSize
  | .timeout => s.timeout

theorem Figure.plain (f : Figure) : Key.ofText f.key = ⟨f.key, []⟩ := by
  cases f <;> decide +kernel

theorem Figure.lookup_defaultTable (f : Figure) :
    defaultTable.lookup f.key = some (.whole (default.figure f).toNat) := by
  cases f <;> rfl

theorem toWord?_whole (n : UInt64) : (Node.whole n.toNat).toWord? = some n := by
  simp [Node.toWord?, Node.toUnsigned?]

variable {table table' : List (String × Node)} {s s' : Settings}

/-- Each of the settings is what the table has under its key, converted. -/
structure ReadsAs (table : List (String × Node)) (s : Settings) : Prop where
  figures : ∀ f : Figure, converted? table f.key Node.toWord? (default.figure f) = some (s.figure f)
  allowlist : converted? table "checks" Node.toAllowlist? default.allowlist = some s.allowlist
  skips : converted? table "skips" Node.toSkips? default.skips = some s.skips

theorem readsAs_of_ofTable? (read : ofTable? table = some s) : ReadsAs table s := by
  rw [ofTable?_eq] at read
  obtain ⟨initialDelay, h₁, read⟩ := Option.bind_eq_some_iff.mp read
  obtain ⟨period, h₂, read⟩ := Option.bind_eq_some_iff.mp read
  obtain ⟨poolSize, h₃, read⟩ := Option.bind_eq_some_iff.mp read
  obtain ⟨timeout, h₄, read⟩ := Option.bind_eq_some_iff.mp read
  obtain ⟨allowlist, h₅, read⟩ := Option.bind_eq_some_iff.mp read
  obtain ⟨skips, h₆, read⟩ := Option.bind_eq_some_iff.mp read
  obtain rfl := Option.some.inj read
  refine ⟨fun f => ?_, h₅, h₆⟩
  cases f with
  | initialDelay => exact h₁
  | period => exact h₂
  | poolSize => exact h₃
  | timeout => exact h₄

theorem ofTable?_congr (same : ∀ name ∈ memberNames, table.lookup name = table'.lookup name) :
    ofTable? table = ofTable? table' := by
  simp only [memberNames, List.forall_mem_cons] at same
  obtain ⟨h₁, h₂, h₃, h₄, h₅, h₆, -⟩ := same
  simp only [ofTable?_eq, converted?, h₁, h₂, h₃, h₄, h₅, h₆]

/-! ### Variables -/

/-- The text that the last variable of a key assigns to it. -/
def assigned? (env : List (String × String)) (key : String) : Option String :=
  env.reverse.findSome? fun v =>
    if Text.lowercase v.1 = variableStem ++ key then some v.2 else none

theorem isHollow_ofText (text : String) : (Node.ofText text).isHollow = false := by
  rw [Node.ofText]
  repeat' split
  all_goals rfl

theorem offer?_setting? (key : String) (v : String × String) :
    (setting? v).bind (Node.offer? key) =
      if Text.lowercase v.1 = variableStem ++ key then some (Node.ofText v.2) else none := by
  rw [setting?]
  by_cases stemmed : variableStem.toList <+: (Text.lowercase v.1).toList
  · have whole := List.prefix_iff_eq_append.mp stemmed
    have same : String.ofList ((Text.lowercase v.1).toList.drop variableStem.toList.length) = key ↔
        Text.lowercase v.1 = variableStem ++ key := by
      rw [← String.toList_inj, ← String.toList_inj, String.toList_ofList, String.toList_append]
      exact List.append_right_inj _ |>.symm.trans (by rw [whole])
    rw [if_pos (List.isPrefixOf_iff_prefix.mpr stemmed), Option.bind_some, Node.offer?,
      Text.lowercase_drop_lowercase, isHollow_ofText]
    simp [same]
  · have other : Text.lowercase v.1 ≠ variableStem ++ key := by
      intro same
      rw [same, String.toList_append] at stemmed
      exact stemmed (List.prefix_append ..)
    rw [if_neg (mt List.isPrefixOf_iff_prefix.mp stemmed), if_neg other]
    rfl

theorem given?_environmentLayer (env : List (String × String)) (key : String) :
    Node.given? (environmentLayer env) key = (assigned? env key).map Node.ofText := by
  rw [Node.given?, environmentLayer, ← List.filterMap_reverse, assigned?]
  induction env.reverse with
  | nil => rfl
  | cons v rest ih =>
    have here := offer?_setting? key v
    rw [List.filterMap_cons, List.findSome?_cons]
    by_cases same : Text.lowercase v.1 = variableStem ++ key
    · rw [if_pos same] at here ⊢
      obtain ⟨e, made, offered⟩ := Option.bind_eq_some_iff.mp here
      rw [made]
      simp only [List.findSome?_cons, offered, Option.map_some]
    · rw [if_neg same] at here ⊢
      cases made : setting? v with
      | none => exact ih
      | some e =>
        rw [made] at here
        have offered : Node.offer? key e = none := here
        simpa only [List.findSome?_cons, offered] using ih

/-! ### The layers of a load -/

def merged (file : List (String × Node)) (env : List (String × String)) : List (String × Node) :=
  Node.layAll (Node.layAll defaultTable file) (environmentLayer env)

/-- The files and the variables of two loads have the same entries rooted at a name. -/
def Agree (name : String) (file file' : List (String × Node)) (env env' : List (String × String)) :
    Prop :=
  rootedAt name file = rootedAt name file' ∧
    rootedAt name (environmentLayer env) = rootedAt name (environmentLayer env')

variable {dir dir' : Directory} {path path' : Option String} {env env' : List (String × String)}
  {file file' : List (String × Node)} {name : String}

theorem Agree.lookup_merged (agree : Agree name file file' env env') :
    (merged file env).lookup name = (merged file' env').lookup name := by
  simp only [merged, Node.lookup_layAll, agree.1, agree.2]

theorem converted?_congr {α : Type} (convert : Node → Option α) (other : α)
    (same : table.lookup name = table'.lookup name) :
    converted? table name convert other = converted? table' name convert other := by
  rw [converted?, converted?, same]

theorem load_of_readable (readable : fileLayer? dir path = some file) :
    load dir path env = match ofTable? (merged file env) with
      | none => .error .unreadableSettings
      | some s => match s.validate with
        | .error fault => .error fault
        | .ok () => .ok s := by
  rw [load, readable]
  rfl

theorem load_ok (loaded : load dir path env = .ok s) :
    ∃ file, fileLayer? dir path = some file ∧ s.validate = .ok () ∧
      ReadsAs (merged file env) s := by
  cases readable : fileLayer? dir path with
  | none =>
    rw [load, readable] at loaded
    cases loaded
  | some file =>
    rw [load_of_readable readable] at loaded
    split at loaded
    · cases loaded
    · rename_i t read
      split at loaded
      · cases loaded
      · rename_i valid
        obtain rfl := Except.ok.inj loaded
        exact ⟨file, rfl, valid, readsAs_of_ofTable? read⟩

theorem isSome_lookup_merged (file : List (String × Node)) (env : List (String × String))
    (f : Figure) : ((merged file env).lookup f.key).isSome = true := by
  have kept : ∀ {entries : List (String × Node)} {old : Option Node}, old.isSome = true →
      (entries.foldl Node.laid old).isSome = true := by
    intro entries
    induction entries with
    | nil => exact id
    | cons e rest ih => exact fun _ => ih rfl
  rw [merged, Node.lookup_layAll, Node.lookup_layAll]
  exact kept (kept (by rw [f.lookup_defaultTable]; rfl))

/-- A number comes from the highest layer that gives one. -/
theorem ReadsAs.figure_eq (reads : ReadsAs (merged file env) s) (f : Figure) :
    match assigned? env f.key, Node.given? file f.key with
    | some text, _ => (Node.ofText text).toWord? = some (s.figure f)
    | none, some n => n.toWord? = some (s.figure f)
    | none, none => s.figure f = default.figure f := by
  have converted := reads.figures f
  obtain ⟨n, found⟩ := Option.isSome_iff_exists.mp (isSome_lookup_merged file env f)
  rw [converted?, found] at converted
  have upper := Node.given?_of_word f.plain found converted
  rw [given?_environmentLayer] at upper
  cases assigned : assigned? env f.key with
  | some text =>
    rw [assigned, Option.map_some, Option.some_or] at upper
    exact (congrArg Node.toWord? (Option.some.inj upper)).trans converted
  | none =>
    rw [assigned, Option.map_none, Option.none_or] at upper
    have lower := Node.given?_of_word f.plain upper converted
    rw [f.lookup_defaultTable] at lower
    cases given : Node.given? file f.key with
    | some m =>
      rw [given, Option.some_or] at lower
      exact (congrArg Node.toWord? (Option.some.inj lower)).trans converted
    | none =>
      rw [given, Option.none_or] at lower
      obtain rfl := Option.some.inj lower
      exact Option.some.inj (converted.symm.trans (toWord?_whole _))

/-- A load that succeeds gives usable settings, and each of the numbers is that of the variable of
its key, else that of its key in the file, else the default.

Two loads agree on a setting if their sources agree on all that is rooted at its key, whatever else
they hold; and they end alike if this is so for all settings, so nothing else has an effect. -/
theorem load_layered (dir : Directory) (path : Option String) (env : List (String × String)) :
    (∀ s, load dir path env = .ok s → ∃ file, fileLayer? dir path = some file ∧
      s.validate = .ok () ∧
      ∀ f : Figure, match assigned? env f.key, Node.given? file f.key with
        | some text, _ => (Node.ofText text).toWord? = some (s.figure f)
        | none, some n => n.toWord? = some (s.figure f)
        | none, none => s.figure f = default.figure f) ∧
    (∀ dir' path' env' file file', fileLayer? dir path = some file →
      fileLayer? dir' path' = some file' →
      (∀ s s', load dir path env = .ok s → load dir' path' env' = .ok s' →
        (∀ f : Figure, Agree f.key file file' env env' → s.figure f = s'.figure f) ∧
        (Agree "checks" file file' env env' → s.allowlist = s'.allowlist) ∧
        (Agree "skips" file file' env env' → s.skips = s'.skips)) ∧
      ((∀ name ∈ memberNames, Agree name file file' env env') →
        load dir path env = load dir' path' env')) := by
  refine ⟨fun s loaded => ?_, fun dir' path' env' file file' readable readable' => ⟨?_, ?_⟩⟩
  · obtain ⟨file, readable, valid, reads⟩ := load_ok loaded
    exact ⟨file, readable, valid, reads.figure_eq⟩
  · intro s s' loaded loaded'
    obtain ⟨_, found, -, reads⟩ := load_ok loaded
    obtain rfl := Option.some.inj (readable.symm.trans found)
    obtain ⟨_, found', -, reads'⟩ := load_ok loaded'
    obtain rfl := Option.some.inj (readable'.symm.trans found')
    refine ⟨fun f agree => ?_, fun agree => ?_, fun agree => ?_⟩
    · have same := converted?_congr Node.toWord? (default.figure f) agree.lookup_merged
      rw [reads.figures, reads'.figures] at same
      exact Option.some.inj same
    · have same := converted?_congr Node.toAllowlist? default.allowlist agree.lookup_merged
      rw [reads.allowlist, reads'.allowlist] at same
      exact Option.some.inj same
    · have same := converted?_congr Node.toSkips? default.skips agree.lookup_merged
      rw [reads.skips, reads'.skips] at same
      exact Option.some.inj same
  · intro agree
    rw [load_of_readable readable, load_of_readable readable',
      ofTable?_congr fun name member => (agree name member).lookup_merged]

/-- The variable goes before the key of the file, whatever their case, and the key before the
default. -/
theorem load_layered_variable :
    let dir := [("c.json", "\x7b\"Period_MS\": 7, \"pool_size\": 2\x7d")]
    let env := [("VITALS_PERIOD_MS", "5000")]
    ∃ s, load dir (some "c.json") env = .ok s ∧ s.period = 5000 ∧ s.poolSize = 2 ∧
      s.timeout = 10000 := by
  intro dir env
  have succeeds : (load dir (some "c.json") env).toBool = true := by decide +kernel
  have assigned : [Figure.period, .poolSize, .timeout].map (fun f => assigned? env f.key) =
      [some "5000", none, none] := by decide +kernel
  have given : (fileLayer? dir (some "c.json")).map (fun file =>
      ((Node.given? file Figure.poolSize.key).bind Node.toWord?,
        (Node.given? file Figure.timeout.key).isNone)) = some (some 2, true) := by decide +kernel
  have word : (Node.ofText "5000").toWord? = some 5000 := by decide +kernel
  cases loaded : load dir (some "c.json") env with
  | error fault =>
    rw [loaded] at succeeds
    cases succeeds
  | ok s =>
    obtain ⟨sources, -⟩ := load_layered dir (some "c.json") env
    obtain ⟨file, readable, -, figures⟩ := sources s loaded
    simp only [List.map_cons, List.cons.injEq] at assigned
    obtain ⟨period, poolSize, timeout, -⟩ := assigned
    rw [readable, Option.map_some] at given
    obtain ⟨two, absent⟩ := Prod.mk.inj (Option.some.inj given)
    obtain ⟨n, held, read⟩ := Option.bind_eq_some_iff.mp two
    refine ⟨s, rfl, ?_, ?_, ?_⟩
    · have highest := figures .period
      rw [period] at highest
      exact (Option.some.inj (word.symm.trans highest)).symm
    · have lower := figures .poolSize
      rw [poolSize, held] at lower
      exact (Option.some.inj (read.symm.trans lower)).symm
    · have lowest := figures .timeout
      rw [timeout, Option.isNone_iff_eq_none.mp absent] at lowest
      exact lowest

/-- An empty table in the file is no number, and yet the load succeeds. -/
theorem hollow_key_ignored :
    let dir := [("c.json", "\x7b\"period_ms\": \x7b\x7d\x7d")]
    (load dir (some "c.json") []).toOption.map (·.period) = some 60000 ∧
      ((fileLayer? dir (some "c.json")).bind (·.lookup "period_ms")).map Node.toWord? =
        some none := by
  decide +kernel

end HealthWatch.Settings
