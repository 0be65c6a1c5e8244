import Reshape.ErrorCode
import Reshape.Json.Printer
import Reshape.Style

/-!
# Diagnostics

A message for a person, with its severity, code and advice, as plain text, as styled text and as
JSON.
-/

namespace Reshape

/-- A `Severity` says how bad a problem is. -/
inductive Severity where
  | error
  | warning
  | info
deriving DecidableEq

namespace Severity

/-- `severity.render` is the severity in a message. -/
def render : Severity → String
  | .error => "error"
  | .warning => "warning"
  | .info => "info"

/-- `severity.title` is the severity in JSON. -/
def title : Severity → String
  | .error => "Error"
  | .warning => "Warning"
  | .info => "Info"

/-- `severity.style` is how the severity stands out. -/
def style : Severity → Style
  | .error => .redBold
  | .warning => .yellowBold
  | .info => .cyanBold

end Severity

/-- A `Diagnostic` is a message with severity, code and advice. -/
structure Diagnostic where
  severity : Severity
  code : ErrorCode
  message : String
  help : Option String
deriving DecidableEq

namespace Diagnostic

/-- `diagnostic.render` is the diagnostic on one line, with its advice in parentheses. -/
def render (diagnostic : Diagnostic) : String :=
  diagnostic.severity.render ++ ": " ++ diagnostic.code.render ++ " - " ++ diagnostic.message ++
    match diagnostic.help with
    | some help => " (" ++ help ++ ")"
    | none => ""

/-- `diagnostic.styled palette` is the diagnostic with its advice on a second line. -/
def styled (diagnostic : Diagnostic) (palette : Palette) : String :=
  palette.paint diagnostic.severity.style diagnostic.severity.render ++
    "[" ++ diagnostic.code.render ++ "]: " ++ diagnostic.message ++
    match diagnostic.help with
    | some help => "\n  " ++ palette.paint .green "help:" ++ " " ++ help
    | none => ""

/-- `diagnostic.toJson` is the diagnostic as an object. -/
def toJson (diagnostic : Diagnostic) : Json :=
  .object [
    ("severity", .string diagnostic.severity.title),
    ("code", .integer diagnostic.code.number),
    ("message", .string diagnostic.message),
    ("help", Json.ofOption Json.string diagnostic.help)]

end Diagnostic

end Reshape
