import HealthWatch.Settings.Format
import HealthWatch.Settings.Layer
import HealthWatch.Text.Pieces

/-!
# Loading settings

`load` lays three layers over each other: the defaults, a file, and variables of the environment.
The result is checked by `validate`, so settings that were loaded can be used.
-/

namespace HealthWatch.Settings

/-! ### Files -/

abbrev Directory := List (String × String)

/-- The name of the file that a path leads to, with or without an extension, if it stays in the
directory: points that stand for the directory itself are passed. -/
def fileName? (path : String) : Option String :=
  let parts := (Text.pieces '/' path.toList).map String.ofList
  if path.toList.head? = some '/' then none
  else
    match parts.filter fun part => part ≠ "" && part ≠ "." with
    | [name] => if name = ".." then none else some name
    | _ => none

def isPlainPath (path : String) : Bool :=
  match ((Text.pieces '/' path.toList).getLast?).map String.ofList with
  | some last => last ≠ "" && last ≠ "."
  | none => false

/-- What follows the last point of a file name. A point at the head of a name starts no extension.
-/
def extension? (name : String) : Option String :=
  let name := name.toList
  let tail := (name.reverse.takeWhile (· ≠ '.')).reverse
  if tail.length + 1 < name.length then some (String.ofList tail) else none

/-- The file that a path leads to: the path itself, or the path with an extension of a known format.
A file of no known format is passed over. -/
def findFile? (dir : Directory) (path : String) : Option (FileFormat × String) :=
  match fileName? path with
  | none => none
  | some name =>
    match if isPlainPath path then dir.lookup name else none with
    | some content =>
      ((extension? name).bind FileFormat.ofExtension?).map fun format => (format, content)
    | none =>
      FileFormat.extensions.findSome? fun (extension, format) =>
        (dir.lookup (name ++ "." ++ extension)).map fun content => (format, content)

/-- The layer of a file. A missing file is an empty layer. -/
def fileLayer? (dir : Directory) (path : Option String) : Option (List (String × Node)) :=
  match path.bind (findFile? dir) with
  | some (format, content) => format.table? content
  | none => some []

/-! ### Variables -/

/-- What the names of variables begin with, in any case. -/
def variableStem : String := "vitals_"

def setting? (v : String × String) : Option (String × Node) :=
  let name := (Text.lowercase v.1).toList
  let stem := variableStem.toList
  if stem.isPrefixOf name then
    some (String.ofList (name.drop stem.length), Node.ofText v.2)
  else none

def environmentLayer (env : List (String × String)) : List (String × Node) :=
  env.filterMap setting?

/-! ### The settings -/

/-- The settings of the defaults, a file of a directory, and the environment, each layer over the
one before. -/
def load (dir : Directory) (path : Option String) (env : List (String × String)) :
    Except Fault Settings :=
  match fileLayer? dir path with
  | none => .error .unreadableSettings
  | some file =>
    match ofTable? (Node.layAll (Node.layAll defaultTable file) (environmentLayer env)) with
    | none => .error .unreadableSettings
    | some s =>
      match s.validate with
      | .error fault => .error fault
      | .ok () => .ok s

end HealthWatch.Settings
