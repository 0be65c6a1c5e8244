import Reshape.Command.Failure
import Reshape.Conversion.Configuration
import Reshape.Document.Binding
import Reshape.Shape.Document
import Reshape.Text.Case

/-!
# Inputs of commands

The files that commands read: a model, a predicate document, a conversion configuration. Reading a
file gives its text or the message of the system. A model must be in a file named `.json`.
-/

namespace Reshape.Command

/-- A `Files` gives the text of each file, or the system's message for one that cannot be read. -/
abbrev Files := String → Except String String

/-- A `Format` says how a result is written. -/
inductive Format where
  | text
  | json
  | pretty
deriving DecidableEq

namespace Format

/-- `ofName name` is the format of that name in any case; any other name stands for text. -/
def ofName (name : String) : Format :=
  match Text.toLower name with
  | "json" => .json
  | "pretty" => .pretty
  | "json-pretty" => .pretty
  | _ => .text

/-- `format.json? json` writes JSON, unless the format is text. -/
def json? (format : Format) (json : Json) : Option String :=
  match format with
  | .text => none
  | .json => some json.compact
  | .pretty => some json.pretty

end Format

/-- `paletteNamed name terminal` is the choice of colours of that name in any case: always, never,
and else when the output is a terminal. -/
def paletteNamed (name : String) (terminal : Bool) : Palette :=
  match Text.toLower name with
  | "always" => .coloured
  | "never" => .plain
  | _ => if terminal then .coloured else .plain

/-- `splitAt mark cs` cuts `cs` at every `mark`. -/
def splitAt (mark : Char) : List Char → List (List Char)
  | [] => [[]]
  | c :: rest =>
    if c = mark then [] :: splitAt mark rest
    else
      match splitAt mark rest with
      | first :: others => (c :: first) :: others
      | [] => [[c]]

/-- `fileName? path` is the last part of a path that names something. -/
def fileName? (path : String) : Option (List Char) :=
  match ((splitAt '/' path.toList).filter fun part => part ≠ [] ∧ part ≠ ['.']).getLast? with
  | some ['.', '.'] => none
  | name => name

/-- `extension? path` is what follows the last point of the file's name, unless the point begins
it. -/
def extension? (path : String) : Option String := do
  let name ← fileName? path
  let after := (name.reverse.takeWhile (· ≠ '.')).reverse
  let before := name.length - after.length
  if before ≤ 1 then none else some (String.ofList after)

/-- `unreadable message` says that a file cannot be read. -/
def unreadable (message : String) : Error := .system ErrorCode.inputOutput message

/-- `readFile files path` is the text of a file; failing is an error with a code. -/
def readFile (files : Files) (path : String) : Except Error String :=
  (files path).mapError unreadable

/-- `readModel files path` is the registry in a file named `.json`. -/
def readModel (files : Files) (path : String) : Except Error Registry :=
  match extension? path with
  | some "json" => do Registry.ofText (← readFile files path)
  | some other =>
    .error (.model ErrorCode.modelLoadFailed
      ("Unsupported file extension: ." ++ other ++ ". Expected .json") none)
  | none =>
    .error (.model ErrorCode.modelLoadFailed "No file extension found. Expected .json" none)

/-- `loadModel files path` is the registry in a file. -/
def loadModel (files : Files) (path : String) : Except Failure Registry :=
  attempt ("Failed to load shapes from " ++ path) .error (readModel files path)

/-- `loadPredicate files path registry` is the predicate in a file, with the next identity after its
parameters. -/
def loadPredicate (files : Files) (path : String) (registry : Registry) :
    Except Failure (Predicate × Nat) := do
  let text ← attempt ("Failed to read predicate file: " ++ path) .file (files path)
  attempt ("Invalid predicate in " ++ path) .error (Document.bindText text registry 0)

/-- `readConfiguration files path` is the configuration in a file. -/
def readConfiguration (files : Files) (path : String) : Except Error Configuration := do
  Configuration.ofText (← readFile files path)

/-- `loadOptions files path? lenient` are the options of a configuration, if there is one. A lenient
conversion substitutes defaults whatever the configuration says. -/
def loadOptions (files : Files) (path : Option String) (lenient : Bool) :
    Except Failure Options := do
  let options ← match path with
    | none => pure Options.default
    | some path =>
      (attempt ("Failed to load conversion config: " ++ path) .error
        (readConfiguration files path)).map Configuration.options
  return if lenient then { options with errorHandling := .returnDefault } else options

end Reshape.Command
