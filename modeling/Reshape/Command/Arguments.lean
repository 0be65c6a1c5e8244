import Reshape.Command.Request

/-!
# Arguments of the command line

A command line names a command and gives options, in any order. An option takes its value from the
next word, or after an equals sign; two switches take none. `Invocation.ofWords?` reads a command
line, or says what is wrong with it.
-/

namespace Reshape.Command

/-- A `Setting` is an option that takes a value. -/
inductive Setting where
  | shapes
  | predicate
  | destination
  | configuration
  | data
  | format
  | output
  | colour
deriving DecidableEq

/-- `settings` are the options with their long and short names, as far as they have one. -/
def settings : List (String × Setting) :=
  [("--shapes", .shapes), ("-s", .shapes), ("--predicate", .predicate), ("-p", .predicate),
    ("--to", .destination), ("-t", .destination), ("--config", .configuration),
    ("-c", .configuration), ("--data", .data), ("-d", .data), ("--format", .format),
    ("-f", .format), ("--output", .output), ("-o", .output), ("--color", .colour)]

/-- `Setting.longName setting` is the long name of an option. -/
def Setting.longName (setting : Setting) : String :=
  ((settings.find? fun named => named.2 = setting).map (·.1)).getD ""

/-- An `Arguments` is a command line taken apart: the words that are no options, the options with
their values, whether defaults take the place of members without counterpart, and how much is
logged. -/
structure Arguments where
  words : List String
  values : List (Setting × String)
  lenient : Bool
  verbosity : Nat

namespace Arguments

/-- `empty` is a command line without words. -/
def empty : Arguments := ⟨[], [], false, 0⟩

/-- `inline? word` takes an option with its value after an equals sign apart. -/
def inline? (word : String) : Option (Setting × String) := do
  let name := word.toList.takeWhile (· ≠ '=')
  match word.toList.drop name.length with
  | _ :: value => return (← settings.lookup (String.ofList name), String.ofList value)
  | [] => none

/-- `ofWords? words` takes a command line apart. -/
def ofWords? : List String → Except String Arguments
  | [] => .ok empty
  | "--return-default" :: rest => do return { ← ofWords? rest with lenient := true }
  | "--verbose" :: rest | "-v" :: rest => do
    let others ← ofWords? rest
    return { others with verbosity := others.verbosity + 1 }
  | word :: rest =>
    match settings.lookup word, inline? word with
    | some setting, _ =>
      match rest with
      | value :: rest => do
        let others ← ofWords? rest
        return { others with values := (setting, value) :: others.values }
      | [] => .error ("a value is required for '" ++ setting.longName ++ "'")
    | none, some value => do
      let others ← ofWords? rest
      return { others with values := value :: others.values }
    | none, none => do
      if word.startsWith "-" then .error ("unexpected option '" ++ word ++ "'")
      else
        let others ← ofWords? rest
        return { others with words := word :: others.words }

/-- `arguments.value? setting` is the value given for an option. -/
def value? (arguments : Arguments) (setting : Setting) : Option String :=
  arguments.values.lookup setting

/-- `arguments.required setting` is the value of an option that must be given. -/
def required (arguments : Arguments) (setting : Setting) : Except String String :=
  match arguments.value? setting with
  | some value => .ok value
  | none => .error ("the option '" ++ setting.longName ++ "' is required")

/-- `arguments.request` is the command that is asked for. -/
def request (arguments : Arguments) : Except String Request :=
  match arguments.words with
  | ["convert"] => do
    return .convert ⟨← arguments.required .shapes, ← arguments.required .predicate,
      ← arguments.required .destination, arguments.value? .configuration, arguments.lenient⟩
  | ["eval"] => do
    return .eval ⟨← arguments.required .shapes, ← arguments.required .predicate,
      ← arguments.required .data⟩
  | ["shapes"] => do return .shapes ⟨← arguments.required .shapes⟩
  | _ => .error "one of the commands 'convert', 'eval' and 'shapes' is required"

/-- `arguments.leastLogged` is how much an entry has to matter to be logged. -/
def leastLogged (arguments : Arguments) : Level :=
  match arguments.verbosity with
  | 0 => .warn
  | 1 => .debug
  | _ => .trace

end Arguments

/-- An `Invocation` is a request with how and where its output is written. -/
structure Invocation where
  request : Request
  format : Format
  colour : String
  output : Option String
  leastLogged : Level

/-- `Invocation.ofWords? words` reads a command line, or says what is wrong with it. -/
def Invocation.ofWords? (words : List String) : Except String Invocation := do
  let arguments ← Arguments.ofWords? words
  return {
    request := ← arguments.request
    format := Format.ofName ((arguments.value? .format).getD "text")
    colour := (arguments.value? .colour).getD "auto"
    output := arguments.value? .output
    leastLogged := arguments.leastLogged }

end Reshape.Command
