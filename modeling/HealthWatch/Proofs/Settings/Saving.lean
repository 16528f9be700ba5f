import HealthWatch.Proofs.Json.RoundTrip
import HealthWatch.Proofs.NameMap
import HealthWatch.Proofs.Numeral.Rounding
import HealthWatch.Proofs.Settings.Loading

/-!
# Loading what was saved

Settings that are stored in a file and loaded again come back with two losses. The names of skipped
checks are lowered (`cased_skip_lost`), and a number from `2 ^ 63` on is rounded as a floating point
number. `load_saved` says so for all settings, and that nothing else is lost.
-/

namespace HealthWatch.Settings

open Numeral

/-! ### Numbers -/

def reread (n : UInt64) : UInt64 :=
  if n.toNat < 2 ^ 63 then n
  else UInt64.ofNat (min (divNearest n.toNat 2048 * 2048) (UInt64.size - 1))

/-- The number comes back unchanged: it is small, or a floating point number holds it, or it is the
greatest one. -/
def Kept (n : Nat) : Prop :=
  n < 2 ^ 63 ∨ 2048 ∣ n ∨ n = UInt64.size - 1

variable {n : UInt64}

theorem reread_large (large : ¬n.toNat < 2 ^ 63) :
    (reread n).toNat = min (divNearest n.toNat 2048 * 2048) (UInt64.size - 1) := by
  rw [reread, if_neg large, UInt64.toNat_ofNat_of_lt']
  rw [UInt64.size]
  omega

theorem reread_eq_iff : reread n = n ↔ Kept n.toNat := by
  by_cases small : n.toNat < 2 ^ 63
  · exact iff_of_true (if_pos small) (.inl small)
  · have bound := n.toNat_lt
    have size : UInt64.size = 2 ^ 64 := rfl
    have low := le_divNearest n.toNat 2048
    have high := divNearest_le n.toNat 2048
    rw [← UInt64.toNat_inj, reread_large small, Kept]
    -- Rounding gives a multiple of 2048, and the clamp turns only the greatest one into another number.
    constructor
    · intro same
      omega
    · rintro (impossible | whole | greatest)
      · exact absurd impossible small
      · have same := divNearest_of_dvd whole (by decide)
        omega
      · have up : divNearest (UInt64.size - 1) 2048 * 2048 = UInt64.size := by decide
        rw [greatest, up]
        exact Nat.min_eq_right (Nat.sub_le ..)

theorem reread_ne_zero (positive : n ≠ 0) : reread n ≠ 0 := by
  by_cases small : n.toNat < 2 ^ 63
  · rwa [reread, if_pos small]
  · intro zero
    have none := congrArg UInt64.toNat zero
    have low := le_divNearest n.toNat 2048
    rw [reread_large small, UInt64.toNat_zero, UInt64.size] at none
    omega

theorem ofJson_word (n : UInt64) :
    (Node.ofJson (.integer n.toNat)).toWord? = some (reread n) ∧
      ∀ old, Node.merge old (Node.ofJson (.integer n.toNat)) = Node.ofJson (.integer n.toNat) := by
  have bound := n.toNat_lt
  by_cases small : n.toNat < 2 ^ 63
  · have holds : Width.i64.Holds (n.toNat : Int) := Json.holds_i64.mpr (by omega)
    rw [Node.ofJson, if_pos holds, reread, if_pos small]
    exact ⟨toWord?_whole n, fun _ => rfl⟩
  · have large : ¬Width.i64.Holds (n.toNat : Int) := fun holds =>
      small (by have := Json.holds_i64.mp holds; omega)
    rw [Node.ofJson, if_neg large, reread, if_neg small]
    refine ⟨?_, fun _ => rfl⟩
    have positive : decide ((n.toNat : Int) < 0) = false := by simp
    have rounded := Binary64.toNatClamped_ofNat (by omega) bound (UInt64.size - 1)
    rw [Node.toWord?, Node.toUnsigned?, positive, Int.natAbs_natCast, rounded, Option.map_some]

/-! ### Reading back -/

theorem mapM_map_of_back {α β : Type} {write : α → β} {read : β → Option α}
    (back : ∀ a, read (write a) = some a) (l : List α) : (l.map write).mapM read = some l := by
  have all : read ∘ write = fun a => pure (id a) := funext back
  rw [List.mapM_map, all, List.mapM_pure, List.map_id]
  rfl

theorem ofItems_map (items : List Json) : Node.ofItems items = items.map Node.ofJson := by
  induction items with
  | nil => rfl
  | cons j rest ih => rw [Node.ofItems, ih, List.map_cons]

theorem toAllowlist?_merged (allowlist : Option (List String)) :
    (Node.merge (some .nothing) (Node.ofJson (allowlistJson allowlist))).toAllowlist? =
      some allowlist := by
  cases allowlist with
  | none => rfl
  | some names =>
    have texts : Node.ofItems (names.map .string) = names.map .text := by
      rw [ofItems_map, List.map_map]
      rfl
    have back : ∀ name, Node.toText? (.text name) = some name := fun _ => rfl
    have read := mapM_map_of_back back names
    rw [← texts] at read
    exact congrArg (Option.map some) read

/-! ### Skip counts -/

def skipNodes (l : List (String × UInt32)) : List (String × Node) :=
  l.map fun e => (e.1, .whole e.2.toNat)

def lowered (l : List (String × UInt32)) : List (String × UInt32) :=
  l.map fun e => (Text.lowercase e.1, e.2)

theorem skipNodes_cons (e : String × UInt32) (rest : List (String × UInt32)) :
    skipNodes (e :: rest) = (e.1, .whole e.2.toNat) :: skipNodes rest := rfl

theorem put_skipNodes (key : String) (count : UInt32) (l : List (String × UInt32)) :
    Keyed.put key (.whole count.toNat) (skipNodes l) = skipNodes (Keyed.put key count l) := by
  induction l with
  | nil => rfl
  | cons e rest ih =>
    rw [skipNodes_cons, Keyed.put, Keyed.put]
    split
    · rfl
    · rw [ih, skipNodes_cons]

theorem mergeAll_skipNodes (old l : List (String × UInt32)) :
    Node.mergeAll (skipNodes old) (skipNodes l) =
      skipNodes ((lowered l).foldl (fun old e => Keyed.put e.1 e.2 old) old) := by
  induction l generalizing old with
  | nil => rfl
  | cons e rest ih =>
    rw [skipNodes_cons, Node.mergeAll]
    exact (congrArg (Node.mergeAll · _) (put_skipNodes ..)).trans (ih _)

theorem mapM_skipNodes (l : List (String × UInt32)) :
    (skipNodes l).mapM Node.toSkip? = some l := by
  refine mapM_map_of_back (fun e => ?_) l
  have nonnegative : ¬(e.2.toNat : Int) < 0 := by omega
  have bound : e.2.toNat < UInt32.size := e.2.toNat_lt
  simp [Node.toSkip?, Node.toUnsigned?, nonnegative, bound]

theorem ofMembers_skips {l : List (String × UInt32)} (ascending : Ascending l) :
    Node.ofMembers (l.map fun e => (e.1, .integer e.2.toNat)) = skipNodes l := by
  induction l with
  | nil => rfl
  | cons e rest ih =>
    obtain ⟨above, later⟩ := List.pairwise_cons.mp ascending
    have bound := e.2.toNat_lt
    have holds : Width.i64.Holds (e.2.toNat : Int) := Json.holds_i64.mpr (by omega)
    have absent : (skipNodes rest).lookup e.1 = none := by
      refine NameMap.lookup_of_below fun f member => ?_
      obtain ⟨g, listed, rfl⟩ := List.mem_map.mp member
      exact above g listed
    rw [List.map_cons, Node.ofMembers, ih later, absent, Node.ofJson, if_pos holds]
    rfl

theorem toSkips?_merged (skips : NameMap UInt32) :
    (Node.merge (some (.table [])) (Node.ofJson (skipsJson skips))).toSkips? =
      some (.ofList (lowered skips.entries)) := by
  have node : Node.ofJson (skipsJson skips) = .table (skipNodes skips.entries) := by
    rw [skipsJson, countsJson, Node.ofJson, ofMembers_skips skips.ascending]
  have laid : Node.merge (some (.table [])) (.table (skipNodes skips.entries)) =
      .table (Node.mergeAll (skipNodes []) (skipNodes skips.entries)) := by
    cases skips.entries <;> rfl
  rw [node, laid, mergeAll_skipNodes, Node.toSkips?, mapM_skipNodes, Option.map_some,
    NameMap.ofList_puts]

theorem ofList_lowered_eq_iff (skips : NameMap UInt32) :
    .ofList (lowered skips.entries) = skips ↔
      ∀ e ∈ skips.entries, Text.lowercase e.1 = e.1 := by
  constructor
  · intro same e member
    rw [← same] at member
    obtain ⟨e', -, rfl⟩ := List.mem_map.mp (NameMap.mem_of_mem_ofList member)
    exact Text.lowercase_lowercase e'.1
  · intro fixed
    have unchanged : lowered skips.entries = skips.entries := by
      refine (List.map_congr_left fun e member => ?_).trans (List.map_id _)
      rw [fixed e member]
      rfl
    rw [unchanged]
    exact NameMap.ext (NameMap.entries_ofList skips.ascending)

/-! ### The file -/

def savedLayer (s : Settings) : List (String × Node) := [
  ("initial_delay_ms", Node.ofJson (.integer s.initialDelay.toNat)),
  ("period_ms", Node.ofJson (.integer s.period.toNat)),
  ("pool_size", Node.ofJson (.integer s.poolSize.toNat)),
  ("timeout_ms", Node.ofJson (.integer s.timeout.toNat)),
  ("checks", Node.ofJson (allowlistJson s.allowlist)),
  ("skips", Node.ofJson (skipsJson s.skips))]

/-- The value can be written and read in a file of settings, being nested at most so deeply. -/
structure Plain (depth : Nat) (j : Json) : Prop where
  exactly : j.isExact = true
  readable : j.readable = true
  shallow : j.depth ≤ depth

variable {depth : Nat}

theorem plain_integer {i : Int} (low : 0 ≤ i) (high : i < 2 ^ 64) : Plain depth (.integer i) := by
  refine ⟨?_, rfl, Nat.zero_le _⟩
  simp only [Json.isExact, Bool.and_eq_true, decide_eq_true_eq]
  omega

theorem plain_array {items : List Json} (plain : ∀ j ∈ items, Plain depth j) :
    Plain (depth + 1) (.array items) := by
  have all : Json.itemsExact items = true ∧ Json.itemsReadable items = true ∧
      Json.itemsDepth items ≤ depth := by
    induction items with
    | nil => exact ⟨rfl, rfl, Nat.zero_le _⟩
    | cons j js ih =>
      obtain ⟨first, later⟩ := List.forall_mem_cons.mp plain
      obtain ⟨exactly, readable, shallow⟩ := ih later
      refine ⟨?_, ?_, Nat.max_le.mpr ⟨first.shallow, shallow⟩⟩
      · rw [Json.itemsExact, first.exactly, exactly, Bool.and_self]
      · rw [Json.itemsReadable, first.readable, readable, Bool.and_self]
  exact ⟨all.1, all.2.1, Nat.succ_le_succ all.2.2⟩

theorem plain_object {members : List (String × Json)} (plain : ∀ m ∈ members, Plain depth m.2) :
    Plain (depth + 1) (.object members) := by
  have all : Json.membersExact members = true ∧ Json.membersReadable members = true ∧
      Json.membersDepth members ≤ depth := by
    induction members with
    | nil => exact ⟨rfl, rfl, Nat.zero_le _⟩
    | cons m ms ih =>
      obtain ⟨first, later⟩ := List.forall_mem_cons.mp plain
      obtain ⟨exactly, readable, shallow⟩ := ih later
      refine ⟨?_, ?_, Nat.max_le.mpr ⟨first.shallow, shallow⟩⟩
      · rw [Json.membersExact, first.exactly, exactly, Bool.and_self]
      · rw [Json.membersReadable, first.readable, readable, Bool.and_self]
  exact ⟨all.1, all.2.1, Nat.succ_le_succ all.2.2⟩

theorem plain_toJson (s : Settings) : Plain 2 s.toJson := by
  have word : ∀ n : UInt64, Plain 1 (.integer n.toNat) := by
    intro n
    have bound := n.toNat_lt
    exact plain_integer (by omega) (by omega)
  have allowlist : Plain 1 (allowlistJson s.allowlist) := by
    cases s.allowlist with
    | none => exact ⟨rfl, rfl, Nat.zero_le _⟩
    | some names =>
      refine plain_array fun j member => ?_
      obtain ⟨name, -, rfl⟩ := List.mem_map.mp member
      exact ⟨rfl, rfl, Nat.le_refl _⟩
  have skips : Plain 1 (skipsJson s.skips) := by
    refine plain_object fun m member => ?_
    obtain ⟨e, -, rfl⟩ := List.mem_map.mp member
    have bound := e.2.toNat_lt
    exact plain_integer (by omega) (by omega)
  refine plain_object ?_
  simp only [List.forall_mem_cons]
  exact ⟨word _, word _, word _, word _, allowlist, skips, nofun⟩

theorem table?_saved {s : Settings} {text : String} (written : Json.parse text = some s.toJson) :
    FileFormat.json.table? text = some s.savedLayer := by
  obtain ⟨-, readable, shallow⟩ := plain_toJson s
  have accepted : (s.toJson.readable && decide (s.toJson.depth ≤ FileFormat.depthLimit)) = true := by
    rw [readable, Bool.true_and, decide_eq_true (Nat.le_trans shallow (by decide))]
  simp only [FileFormat.table?, written, accepted, if_true]
  rfl

/-- An entry whose name is a key of its own lays its value under the name. -/
theorem lookup_layAll_plain {table layer : List (String × Node)} (distinct : NameMap.Distinct layer)
    (plain : ∀ e ∈ layer, Key.ofText (Text.lowercase e.1) = ⟨e.1, []⟩) {e : String × Node}
    (member : e ∈ layer) :
    (Node.layAll table layer).lookup e.1 = some (Node.merge (table.lookup e.1) e.2) := by
  have alone : rootedAt e.1 layer = [e] := by
    induction layer with
    | nil => cases member
    | cons f rest ih =>
      obtain ⟨different, distinct⟩ := List.pairwise_cons.mp distinct
      obtain ⟨first, later⟩ := List.forall_mem_cons.mp plain
      rw [rootedAt, List.filter_cons, ← rootedAt, root, first]
      rcases List.mem_cons.mp member with rfl | member
      · have none : rootedAt e.1 rest = [] := by
          refine List.filter_eq_nil_iff.mpr fun g listed => ?_
          simp [root, later g listed, (different g listed).symm]
        simp [none]
      · simp [different e member, ih distinct later member]
  rw [Node.lookup_layAll, alone, List.foldl_cons, List.foldl_nil, Node.laid, plain e member,
    Node.place]

theorem names_savedLayer (s : Settings) : s.savedLayer.map (·.1) = memberNames := rfl

theorem lookup_saved (s : Settings) {e : String × Node} (member : e ∈ s.savedLayer) :
    (Node.layAll defaultTable s.savedLayer).lookup e.1 =
      some (Node.merge (defaultTable.lookup e.1) e.2) := by
  have distinct : memberNames.Pairwise (· ≠ ·) := by decide
  have plain : ∀ name ∈ memberNames, Key.ofText (Text.lowercase name) = ⟨name, []⟩ := by
    decide +kernel
  rw [← s.names_savedLayer] at distinct plain
  exact lookup_layAll_plain (List.pairwise_map.mp distinct) (List.forall_mem_map.mp plain) member

/-! ### The settings that come back -/

/-- The settings as they come back, of names that coincide in lower case with the last one. -/
def reloaded (s : Settings) : Settings where
  initialDelay := reread s.initialDelay
  period := reread s.period
  poolSize := reread s.poolSize
  timeout := reread s.timeout
  allowlist := s.allowlist
  skips := .ofList (lowered s.skips.entries)

theorem ofTable?_saved (s : Settings) :
    ofTable? (Node.layAll defaultTable s.savedLayer) = some s.reloaded := by
  have word : ∀ (key : String) (n other : UInt64),
      (key, Node.ofJson (.integer n.toNat)) ∈ s.savedLayer →
      converted? (Node.layAll defaultTable s.savedLayer) key Node.toWord? other =
        some (reread n) := by
    intro key n other member
    obtain ⟨read, laid⟩ := ofJson_word n
    rw [converted?, s.lookup_saved member]
    exact (congrArg Node.toWord? (laid _)).trans read
  have allowlist : converted? (Node.layAll defaultTable s.savedLayer) "checks" Node.toAllowlist?
      default.allowlist = some s.allowlist := by
    rw [converted?, @lookup_saved s ("checks", Node.ofJson (allowlistJson s.allowlist))
      (by simp [savedLayer])]
    exact toAllowlist?_merged s.allowlist
  have skips : converted? (Node.layAll defaultTable s.savedLayer) "skips" Node.toSkips?
      default.skips = some (.ofList (lowered s.skips.entries)) := by
    rw [converted?, @lookup_saved s ("skips", Node.ofJson (skipsJson s.skips))
      (by simp [savedLayer])]
    exact toSkips?_merged s.skips
  rw [ofTable?_eq, word "initial_delay_ms" s.initialDelay _ (by simp [savedLayer]),
    word "period_ms" s.period _ (by simp [savedLayer]),
    word "pool_size" s.poolSize _ (by simp [savedLayer]),
    word "timeout_ms" s.timeout _ (by simp [savedLayer]), allowlist, skips]
  rfl

variable {s : Settings}

theorem validate_reloaded (valid : s.validate = .ok ()) : s.reloaded.validate = .ok () := by
  have period : s.period ≠ 0 := by
    intro zero
    rw [validate, problem?, if_pos zero] at valid
    cases valid
  have timeout : s.timeout ≠ 0 := by
    intro zero
    rw [validate, problem?, if_neg period, if_pos zero] at valid
    cases valid
  have poolSize : s.poolSize ≠ 0 := by
    intro zero
    rw [validate, problem?, if_neg period, if_neg timeout, if_pos zero] at valid
    cases valid
  have period' : s.reloaded.period ≠ 0 := reread_ne_zero period
  have timeout' : s.reloaded.timeout ≠ 0 := reread_ne_zero timeout
  have poolSize' : s.reloaded.poolSize ≠ 0 := reread_ne_zero poolSize
  rw [validate, problem?, if_neg period, if_neg timeout, if_neg poolSize] at valid
  rw [validate, problem?, if_neg period', if_neg timeout', if_neg poolSize']
  exact valid

theorem reloaded_eq_iff : s.reloaded = s ↔
    (∀ f : Figure, Kept (s.figure f).toNat) ∧
      ∀ e ∈ s.skips.entries, Text.lowercase e.1 = e.1 := by
  rw [← ofList_lowered_eq_iff]
  constructor
  · intro same
    refine ⟨fun f => reread_eq_iff.mp ?_, congrArg Settings.skips same⟩
    have figure := congrArg (·.figure f) same
    cases f <;> exact figure
  · rintro ⟨kept, skips⟩
    have word := fun f => reread_eq_iff.mpr (kept f)
    exact Settings.ext (word .initialDelay) (word .period) (word .poolSize) (word .timeout) rfl skips

theorem findFile?_of_plain {dir : Directory} {path text : String} {format : FileFormat}
    (name : fileName? path = some path) (plain : isPlainPath path = true)
    (known : (extension? path).bind FileFormat.ofExtension? = some format)
    (held : dir.lookup path = some text) : findFile? dir path = some (format, text) := by
  rw [findFile?, name]
  simp only [plain, if_true, held, known, Option.map_some]

theorem load_reloaded (valid : s.validate = .ok ()) {dir : Directory} {path text : String}
    {env : List (String × String)} (found : findFile? dir path = some (.json, text))
    (written : Json.parse text = some s.toJson) (unset : environmentLayer env = []) :
    load dir (some path) env = .ok s.reloaded := by
  have readable : fileLayer? dir (some path) = some s.savedLayer := by
    rw [fileLayer?, Option.bind_some, found]
    exact table?_saved written
  have table : merged s.savedLayer env = Node.layAll defaultTable s.savedLayer := by
    rw [merged, unset, Node.layAll, List.foldl_nil]
  rw [load_of_readable readable, table, ofTable?_saved]
  dsimp only
  rw [validate_reloaded valid]

/-- The stored form of any usable settings can be read back, from the text that is written for it
and from any other text of it. Loaded from a file with such a text, no variable being set, the
settings come back with the names of their skips lowered and their numbers reread. They are the same
if no number is lost and the names are in lower case, and only then. Of names that coincide in lower
case `reloaded` keeps the last one, but tables are read in no particular order, and which one stays
is not specified. -/
theorem load_saved (valid : s.validate = .ok ()) :
    Json.parse (Json.render s.toJson) = some s.toJson ∧
    ∀ dir path text env, findFile? dir path = some (.json, text) →
      Json.parse text = some s.toJson → environmentLayer env = [] →
        load dir (some path) env = .ok s.reloaded ∧
        (load dir (some path) env = .ok s ↔
          (∀ f : Figure, Kept (s.figure f).toNat) ∧
            ∀ e ∈ s.skips.entries, Text.lowercase e.1 = e.1) := by
  refine ⟨Json.parse_render s.plain_toJson.exactly, fun dir path text env found written unset => ?_⟩
  have loaded := load_reloaded valid found written unset
  refine ⟨loaded, ?_⟩
  rw [loaded, Except.ok.injEq, reloaded_eq_iff]

/-- Small numbers and names in lower case come back as they were. -/
theorem load_saved_lower :
    let s := default.withSkip "db" 3
    s.validate = .ok () ∧
      load [("c.json", Json.render s.toJson)] (some "c.json") [("HOME", "/root")] = .ok s := by
  intro s
  have valid : s.validate = .ok () := rfl
  obtain ⟨read, loads⟩ := load_saved valid
  have found : findFile? [("c.json", Json.render s.toJson)] "c.json" =
      some (.json, Json.render s.toJson) :=
    findFile?_of_plain (by decide +kernel) rfl (by decide +kernel) List.lookup_cons_self
  obtain ⟨-, back⟩ := loads _ _ _ [("HOME", "/root")] found read (by decide +kernel)
  refine ⟨valid, back.mpr ⟨fun f => .inl ?_, ?_⟩⟩
  · cases f <;> decide
  · decide +kernel

/-- A skip of a name in capitals comes back under another name. -/
theorem cased_skip_lost :
    let s := default.withSkip "DB" 2
    s.validate = .ok () ∧ s.skips.find? "DB" = some 2 ∧
      ∃ t, load [("c.json", Json.render s.toJson)] (some "c.json") [] = .ok t ∧
        t.skips.find? "DB" = none ∧ t.skips.find? "db" = some 2 := by
  intro s
  have valid : s.validate = .ok () := rfl
  have read : Json.parse (Json.render s.toJson) = some s.toJson :=
    Json.parse_render s.plain_toJson.exactly
  have found : findFile? [("c.json", Json.render s.toJson)] "c.json" =
      some (.json, Json.render s.toJson) :=
    findFile?_of_plain (by decide +kernel) rfl (by decide +kernel) List.lookup_cons_self
  refine ⟨valid, by decide +kernel, s.reloaded, load_reloaded valid found read rfl, ?_, ?_⟩
  · decide +kernel
  · decide +kernel

end HealthWatch.Settings
