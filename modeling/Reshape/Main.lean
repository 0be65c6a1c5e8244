import Reshape.Command.Arguments

/-!
# The command line

Reads the files that a command needs, runs it, and writes its output to a file or to the terminal.
The log and failures go to standard error, and a failure ends the program with exit code 1.
-/

namespace Reshape.Command

/-- `systemMessage error` is the message of the system for an error. -/
def systemMessage : IO.Error → String
  | .noFileOrDirectory _ _ _ => "No such file or directory (os error 2)"
  | error => toString error

/-- `readPath path` is the text of a file, or the message of the system. -/
def readPath (path : String) : IO (Except String String) := do
  match ← (IO.FS.readFile path).toBaseIO with
  | .ok text => return .ok text
  | .error error => return .error (systemMessage error)

/-- `writePath path content` writes a file, or gives the failure to do so. -/
def writePath (path content : String) : IO (Except Failure Unit) := do
  match ← (IO.FS.writeFile path content).toBaseIO with
  | .ok _ => return .ok ()
  | .error error =>
    return .error (during ("Failed to create output file: " ++ path) (.file (systemMessage error)))

/-- `perform invocation palette` runs a command and writes its output. -/
def perform (invocation : Invocation) (palette : Palette) : IO (Except Failure Unit) := do
  let texts ← invocation.request.paths.mapM fun path => do return (path, ← readPath path)
  let files : Files := fun path => (texts.lookup path).getD (.error "unknown file")
  for entry in invocation.request.log files do
    if entry.matters invocation.leastLogged then IO.eprintln entry.render
  match invocation.request.run files invocation.format palette, invocation.output with
  | .error failure, _ => return .error failure
  | .ok content, none => do
    IO.println content
    return .ok ()
  | .ok content, some path => do
    match ← writePath path content with
    | .error failure => return .error failure
    | .ok _ =>
      IO.eprintln (palette.paint .greenBold "Success:" ++ " Output written to " ++ path)
      return .ok ()

end Reshape.Command

open Reshape Reshape.Command in
/-- `main words` is the program: it runs the command that the words ask for. -/
def main (words : List String) : IO UInt32 := do
  match Invocation.ofWords? words with
  | .error problem =>
    IO.eprintln ("error: " ++ problem)
    return 2
  | .ok invocation =>
    let palette := paletteNamed invocation.colour (← (← IO.getStdout).isTty)
    match ← perform invocation palette with
    | .error failure =>
      IO.eprintln (failure.render palette)
      return 1
    | .ok _ => return 0
