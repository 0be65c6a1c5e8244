import Reshape.Json.Basic

/-!
# Writing JSON

`Json.compact` writes a value without spaces, `Json.pretty` with one member or item a line. Members
are written in the order they are held. Only quotes, backslashes and control characters are escaped.
-/

namespace Reshape.Json

/-- `escapeChar c` is how `c` is written between quotes. -/
def escapeChar (c : Char) : List Char :=
  match c with
  | '"' => ['\\', '"']
  | '\\' => ['\\', '\\']
  | '\x08' => ['\\', 'b']
  | '\t' => ['\\', 't']
  | '\n' => ['\\', 'n']
  | '\x0c' => ['\\', 'f']
  | '\r' => ['\\', 'r']
  | c =>
    if c.toNat < 32 then
      ['\\', 'u', '0', '0', if c.toNat < 16 then '0' else '1'] ++ Nat.toDigits 16 (c.toNat % 16)
    else [c]

/-- `renderText s` is `s` between quotes. -/
def renderText (s : String) : String :=
  String.ofList ('"' :: (s.toList.flatMap escapeChar ++ ['"']))

mutual
/-- `json.compact` is `json` written without spaces. -/
def compact : Json → String
  | .null => "null"
  | .bool value => if value then "true" else "false"
  | .number value => value.render
  | .string value => renderText value
  | .array items => "[" ++ compactItems items ++ "]"
  | .object members => "\x7b" ++ compactMembers members ++ "\x7d"

/-- `compactItems items` are the items with commas between. -/
def compactItems : List Json → String
  | [] => ""
  | [item] => item.compact
  | item :: rest => item.compact ++ "," ++ compactItems rest

/-- `compactMembers members` are the members with commas between. -/
def compactMembers : List (String × Json) → String
  | [] => ""
  | [(name, value)] => renderText name ++ ":" ++ value.compact
  | (name, value) :: rest => renderText name ++ ":" ++ value.compact ++ "," ++ compactMembers rest
end

/-- `newLine depth` starts a line indented by two spaces a level. -/
def newLine (depth : Nat) : String :=
  String.ofList ('\n' :: List.replicate (2 * depth) ' ')

mutual
/-- `json.prettyAt depth` is `json` written over several lines at an indentation. -/
def prettyAt (depth : Nat) : Json → String
  | .array (item :: rest) =>
    "[" ++ prettyItems (depth + 1) (item :: rest) ++ newLine depth ++ "]"
  | .object (member :: rest) =>
    "\x7b" ++ prettyMembers (depth + 1) (member :: rest) ++ newLine depth ++ "\x7d"
  | json => json.compact

/-- `prettyItems depth items` are the items, each on its line. -/
def prettyItems (depth : Nat) : List Json → String
  | [] => ""
  | [item] => newLine depth ++ item.prettyAt depth
  | item :: rest => newLine depth ++ item.prettyAt depth ++ "," ++ prettyItems depth rest

/-- `prettyMembers depth members` are the members, each on its line. -/
def prettyMembers (depth : Nat) : List (String × Json) → String
  | [] => ""
  | [(name, value)] => newLine depth ++ renderText name ++ ": " ++ value.prettyAt depth
  | (name, value) :: rest =>
    newLine depth ++ renderText name ++ ": " ++ value.prettyAt depth ++ "," ++
      prettyMembers depth rest
end

/-- `json.pretty` is `json` written over several lines. -/
def pretty (json : Json) : String := json.prettyAt 0

end Reshape.Json
