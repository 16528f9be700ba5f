import HealthWatch.Keyed
import HealthWatch.Numeral.Binary64

/-!
# TOML values

`Toml` is a value of a TOML document. A table remembers how it came about, because that decides
what may still be added to it: a table is opened by one header at most, a key adds to a table that
keys of several parts have made but not to one that a header has opened, and an inline table is
complete.
-/

namespace HealthWatch

open Numeral (Binary64)

inductive Toml.Origin where
  /-- Written between braces. -/
  | inline
  /-- Opened by a header. -/
  | header
  /-- On the way to a table that a header has opened. -/
  | passed
  /-- On the way to a value with a key of several parts. -/
  | dotted
  deriving DecidableEq, Repr

inductive Toml where
  | flag (b : Bool)
  | whole (i : Int)
  | real (x : Binary64)
  | text (s : String)
  /-- A date, a time or both, in the standard form. -/
  | moment (s : String)
  | list (items : List Toml)
  | table (origin : Toml.Origin) (entries : List (String × Toml))
  /-- Tables that a header has opened one after another. -/
  | tables (items : List (List (String × Toml)))

namespace Toml

abbrev Entries := List (String × Toml)

structure Key where
  path : List String
  last : String

def Key.under (part : String) (key : Key) : Key :=
  { key with path := part :: key.path }

/-- Changes the table at the end of a path, where `change` is told how the table came about. Missing
tables are made. Of tables one after another the last is entered. -/
def enter? (dotted : Bool) (change : Origin → Entries → Option Entries) :
    List String → Origin → Entries → Option Entries
  | [], origin, entries => change origin entries
  | part :: path, _, entries =>
    match entries.lookup part with
    | none =>
      let origin := if dotted then Origin.dotted else .passed
      (enter? dotted change path origin []).map fun t =>
        Keyed.put part (.table origin t) entries
    | some (.table origin t) =>
      if origin = .inline || (dotted && origin = .header) then none
      else
        (enter? dotted change path origin t).map fun t =>
          Keyed.put part (.table origin t) entries
    | some (.tables items) =>
      match items.getLast? with
      | some t =>
        (enter? dotted change path .header t).map fun t =>
          Keyed.put part (.tables (items.dropLast ++ [t])) entries
      | none => none
    | some _ => none

/-- Adds a value under a key that is not in use. A key of several parts ends in a table made by
such keys, one of a single part does not. -/
def addValue? (key : Key) (value : Toml) : Origin → Entries → Option Entries :=
  enter? true (fun origin entries =>
    if decide (origin = .dotted) == key.path.isEmpty || (entries.lookup key.last).isSome then none
    else some (Keyed.put key.last value entries)) key.path

/-- Opens the table of a header. -/
def openTable? (key : Key) : Entries → Option Entries :=
  enter? false (fun _ entries =>
    match entries.lookup key.last with
    | none => some (Keyed.put key.last (.table .header []) entries)
    | some (.table .passed t) => some (Keyed.put key.last (.table .header t) entries)
    | some _ => none) key.path .header

/-- Opens a new table after those that a header has opened before. -/
def openNext? (key : Key) : Entries → Option Entries :=
  enter? false (fun _ entries =>
    match entries.lookup key.last with
    | none => some (Keyed.put key.last (.tables [[]]) entries)
    | some (.tables items) => some (Keyed.put key.last (.tables (items ++ [[]])) entries)
    | some _ => none) key.path .header

def addUnder? (path : List String) (key : Key) (value : Toml) : Entries → Option Entries :=
  enter? false (addValue? key value) path .header

end Toml

end HealthWatch
