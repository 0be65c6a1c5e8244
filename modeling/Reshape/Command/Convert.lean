import Reshape.Command.Input
import Reshape.Conversion.Basic

/-!
# The convert command

Converts the predicate of a document to another shape, and shows both or writes the document of the
result.
-/

namespace Reshape.Command

/-- A `ConvertRequest` is what the convert command is asked to do. -/
structure ConvertRequest where
  shapes : String
  predicate : String
  destination : String
  configuration : Option String
  lenient : Bool

namespace ConvertRequest

/-- A `ConvertOutcome` is the predicate that was read, its counterpart or why it has none, and the
log of the conversion. -/
structure ConvertOutcome where
  source : Predicate
  result : Except Error Predicate
  log : List LogEntry

/-- `request.outcome files` converts the predicate of the request. -/
def outcome (request : ConvertRequest) (files : Files) : Except Failure ConvertOutcome := do
  let registry ← loadModel files request.shapes
  let (source, nextIdentity) ← loadPredicate files request.predicate registry
  let options ← loadOptions files request.configuration request.lenient
  let (result, state) := source.convertDirectly registry options request.destination nextIdentity
  return ⟨source, result, state.events.filterMap ConversionEvent.log?⟩

/-- `request.log files` is the log of the conversion, as far as it comes. -/
def log (request : ConvertRequest) (files : Files) : List LogEntry :=
  match request.outcome files with
  | .ok outcome => outcome.log
  | .error _ => []

/-- `request.run files format palette` is the output of the command. -/
def run (request : ConvertRequest) (files : Files) (format : Format) (palette : Palette) :
    Except Failure String := do
  let outcome ← request.outcome files
  let source := outcome.source
  let converted ← attempt
    ("Failed to convert " ++ source.shape?.getD "?" ++ " to " ++ request.destination) .error
    outcome.result
  match format.json? converted.json with
  | some text => return text
  | none =>
    return palette.paint .dimmed "source:" ++ " " ++ source.render ++ "\n" ++
      palette.paint .greenBold "result:" ++ " " ++ converted.render

end ConvertRequest

end Reshape.Command
