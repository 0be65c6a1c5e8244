import Reshape.Command.Convert
import Reshape.Command.Eval
import Reshape.Command.Shapes

/-!
# Requests

A request is one of the commands with what it is asked to do. `Request.paths` lists the files that
it may read, so that they can be read before it runs.
-/

namespace Reshape.Command

/-- A `Request` is a command with what it is asked to do. -/
inductive Request where
  | convert (request : ConvertRequest)
  | eval (request : EvalRequest)
  | shapes (request : ShapesRequest)

namespace Request

/-- `request.paths` are the files that the command may read. -/
def paths : Request → List String
  | .convert request => [request.shapes, request.predicate] ++ request.configuration.toList
  | .eval request => [request.shapes, request.predicate, request.data]
  | .shapes request => [request.shapes]

/-- `request.run files format palette` is the output of the command. -/
def run (request : Request) (files : Files) (format : Format) (palette : Palette) :
    Except Failure String :=
  match request with
  | .convert request => request.run files format palette
  | .eval request => request.run files format palette
  | .shapes request => request.run files format palette

/-- `request.log files` is what the command logs. -/
def log (request : Request) (files : Files) : List LogEntry :=
  match request with
  | .convert request => request.log files
  | .eval _ | .shapes _ => []

end Request

end Reshape.Command
