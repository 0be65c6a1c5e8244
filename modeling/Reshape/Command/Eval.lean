import Reshape.Command.Input
import Reshape.Evaluation.Basic
import Reshape.Shape.Record

/-!
# The eval command

Evaluates the predicate of a document on a record, or on each of a list of records.
-/

namespace Reshape.Command

/-- An `EvalRequest` is what the eval command is asked to do. -/
structure EvalRequest where
  shapes : String
  predicate : String
  data : String

namespace EvalRequest

/-- `matched registry predicate shape index items` are the answers for the items from `index` on. -/
def matched (registry : Registry) (predicate : Predicate) (shape : String) (index : Nat) :
    List Json → Except Failure (List Bool)
  | [] => .ok []
  | item :: rest => do
    let record ← attempt ("Input #" ++ naturalText index ++ " is not a valid " ++ shape) .value
      (registry.recordOfJson shape item)
    let answer ← attempt ("Failed to evaluate input #" ++ naturalText index) .evaluation
      (predicate.test record)
    return answer :: (← matched registry predicate shape (index + 1) rest)

/-- `itemsOf json` are the items of a list, or `json` as the only one. -/
def itemsOf : Json → List Json
  | .array items => items
  | json => [json]

/-- `request.answers files` says for each record whether the predicate holds. -/
def answers (request : EvalRequest) (files : Files) : Except Failure (List Bool) := do
  let registry ← loadModel files request.shapes
  let (predicate, _) ← loadPredicate files request.predicate registry
  match predicate.shape? with
  | none => throw ⟨.step "Predicate parameter is not of a shape type", []⟩
  | some shape =>
    let text ← attempt ("Failed to read data file: " ++ request.data) .file (files request.data)
    match Json.read? text with
    | none => throw (during ("Invalid JSON in " ++ request.data) .malformedJson)
    | some json => matched registry predicate shape 0 (itemsOf json)

/-- `line palette index answer` tells the answer for one record. -/
def line (palette : Palette) (index : Nat) (answer : Bool) : String :=
  let digits := Nat.toDigits 10 index
  String.ofList ('#' :: digits ++ List.replicate (3 - digits.length) ' ') ++ " " ++
    if answer then palette.paint .green "match" else palette.paint .red "no match"

/-- `report palette answers` tells the answers and how many hold. -/
def report (palette : Palette) (answers : List Bool) : String :=
  let lines := answers.zipIdx.map fun answer => line palette answer.2 answer.1
  let total :=
    naturalText (answers.count true) ++ " of " ++ naturalText answers.length ++ " input(s) matched"
  "\n".intercalate (lines ++ [total])

/-- `request.run files format palette` is the output of the command. -/
def run (request : EvalRequest) (files : Files) (format : Format) (palette : Palette) :
    Except Failure String := do
  let answers ← request.answers files
  match format.json? (.array (answers.map Json.bool)) with
  | some text => return text
  | none => return report palette answers

end EvalRequest

end Reshape.Command
