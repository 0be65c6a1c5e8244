import Reshape.Json.Number

/-!
# JSON texts as trees

The grammar of JSON, before any meaning is given to numbers and escapes: a text is cut into tokens
by one pass over its characters, and the tokens are built into a tree by one pass with a stack of
open containers. `Raw.read?` accepts exactly the well-formed texts. Members stay in written order,
repeated names included.
-/

namespace Reshape.Json

/-- A `Raw` is a JSON text as written. Strings and names hold the characters between the quotes,
with their escapes. -/
inductive Raw where
  | null
  | bool (value : Bool)
  | number (text : NumberText)
  | string (text : List Char)
  | array (items : List Raw)
  | object (members : List (List Char × Raw))
deriving Inhabited

/-- A `Token` is a bracket, a comma, a colon, or a value without parts. -/
inductive Token where
  | openArray
  | closeArray
  | openObject
  | closeObject
  | comma
  | colon
  | leaf (value : Raw)

/-- A `Lexeme` is the token being read, with the characters so far in reverse. -/
inductive Lexeme where
  | none
  | word (read : List Char)
  | number (read : List Char)
  | string (read : List Char)
  | escape (read : List Char)
  | hex (missing : Nat) (read : List Char)

/-- A `Scan` is the token being read and the tokens before it in reverse. -/
structure Scan where
  lexeme : Lexeme
  tokens : List Token

namespace Scan

/-- `wordToken? cs` is the token spelled `cs`. -/
def wordToken? (cs : List Char) : Option Token :=
  if cs = "null".toList then some (.leaf .null)
  else if cs = "true".toList then some (.leaf (.bool true))
  else if cs = "false".toList then some (.leaf (.bool false))
  else none

/-- `scan.closed?` ends a word or a number; a string must have been ended by its quote. -/
def closed? (scan : Scan) : Option (List Token) :=
  match scan.lexeme with
  | .none => some scan.tokens
  | .word read => (wordToken? read.reverse).map (· :: scan.tokens)
  | .number read => do
    return .leaf (.number (← NumberText.ofChars? read.reverse)) :: scan.tokens
  | .string _ | .escape _ | .hex _ _ => Option.none

/-- `isHex c` says `c` is a hexadecimal digit. -/
def isHex (c : Char) : Bool :=
  c.isDigit || ('a' ≤ c && c ≤ 'f') || ('A' ≤ c && c ≤ 'F')

/-- `isNumberPart c` says `c` can stand in a number. -/
def isNumberPart (c : Char) : Bool :=
  c.isDigit || c = '-' || c = '+' || c = '.' || c = 'e' || c = 'E'

/-- `start? tokens c` begins a token with `c`, or skips white space. -/
def start? (tokens : List Token) (c : Char) : Option Scan :=
  match c with
  | ' ' | '\t' | '\n' | '\r' => some ⟨.none, tokens⟩
  | '[' => some ⟨.none, .openArray :: tokens⟩
  | ']' => some ⟨.none, .closeArray :: tokens⟩
  | '\x7b' => some ⟨.none, .openObject :: tokens⟩
  | '\x7d' => some ⟨.none, .closeObject :: tokens⟩
  | ',' => some ⟨.none, .comma :: tokens⟩
  | ':' => some ⟨.none, .colon :: tokens⟩
  | '"' => some ⟨.string [], tokens⟩
  | c =>
    if c.isDigit || c = '-' then some ⟨.number [c], tokens⟩
    else if c.isLower then some ⟨.word [c], tokens⟩
    else Option.none

/-- `scan.step? c` is the scan after `c`. -/
def step? (scan : Scan) (c : Char) : Option Scan :=
  match scan.lexeme with
  | .none => start? scan.tokens c
  | .word read =>
    if c.isLower then some { scan with lexeme := .word (c :: read) }
    else scan.closed?.bind (start? · c)
  | .number read =>
    if isNumberPart c then some { scan with lexeme := .number (c :: read) }
    else scan.closed?.bind (start? · c)
  | .string read =>
    if c = '"' then some ⟨.none, .leaf (.string read.reverse) :: scan.tokens⟩
    else if c = '\\' then some { scan with lexeme := .escape (c :: read) }
    else if c.toNat < 32 then Option.none
    else some { scan with lexeme := .string (c :: read) }
  | .escape read =>
    if c = 'u' then some { scan with lexeme := .hex 4 (c :: read) }
    else if c ∈ ['"', '\\', '/', 'b', 'f', 'n', 'r', 't'] then
      some { scan with lexeme := .string (c :: read) }
    else Option.none
  | .hex missing read =>
    if !isHex c then Option.none
    else if missing ≤ 1 then some { scan with lexeme := .string (c :: read) }
    else some { scan with lexeme := .hex (missing - 1) (c :: read) }

end Scan

/-- `Token.ofChars? cs` are the tokens of `cs`, or `none` when some character starts no token. -/
def Token.ofChars? (cs : List Char) : Option (List Token) := do
  let scan ← cs.foldlM Scan.step? ⟨.none, []⟩
  return (← scan.closed?).reverse

/-- A `Frame` is an open container: what it holds so far, in reverse. A `member` waits for the value
of the name it holds. -/
inductive Frame where
  | array (items : List Raw)
  | object (members : List (List Char × Raw))
  | member (members : List (List Char × Raw)) (name : List Char)

/-- A `Phase` says what may come next. `item` and `name` also allow the end of the container when
their flag is set. -/
inductive Phase where
  | item (mayClose : Bool)
  | name (mayClose : Bool)
  | colon
  | separator
  | done (value : Raw)

/-- A `Build` is a phase together with the open containers, innermost first. -/
structure Build where
  phase : Phase
  stack : List Frame

namespace Build

/-- `deliver value stack` puts a finished value into the innermost container. -/
def deliver (value : Raw) : List Frame → Option Build
  | [] => some ⟨.done value, []⟩
  | .array items :: rest => some ⟨.separator, .array (value :: items) :: rest⟩
  | .member members name :: rest => some ⟨.separator, .object ((name, value) :: members) :: rest⟩
  | .object _ :: _ => none

/-- `build.step? token` is the build after `token`. -/
def step? (build : Build) (token : Token) : Option Build :=
  match build.phase, token, build.stack with
  | .item _, .leaf value, stack => deliver value stack
  | .item _, .openArray, stack => some ⟨.item true, .array [] :: stack⟩
  | .item _, .openObject, stack => some ⟨.name true, .object [] :: stack⟩
  | .item true, .closeArray, .array items :: stack => deliver (.array items.reverse) stack
  | .name _, .leaf (.string name), .object members :: stack =>
    some ⟨.colon, .member members name :: stack⟩
  | .name true, .closeObject, .object members :: stack => deliver (.object members.reverse) stack
  | .colon, .colon, stack => some ⟨.item false, stack⟩
  | .separator, .comma, .array items :: stack => some ⟨.item false, .array items :: stack⟩
  | .separator, .comma, .object members :: stack => some ⟨.name false, .object members :: stack⟩
  | .separator, .closeArray, .array items :: stack => deliver (.array items.reverse) stack
  | .separator, .closeObject, .object members :: stack => deliver (.object members.reverse) stack
  | _, _, _ => none

end Build

/-- `Raw.ofTokens? tokens` is the tree of a sequence of tokens that forms one value. -/
def Raw.ofTokens? (tokens : List Token) : Option Raw := do
  let build ← tokens.foldlM Build.step? ⟨.item false, []⟩
  match build.phase with
  | .done value => some value
  | _ => none

/-- `Raw.read? s` is the tree of the text `s`, or `none` when `s` is not well formed. -/
def Raw.read? (s : String) : Option Raw := do
  Raw.ofTokens? (← Token.ofChars? s.toList)

end Reshape.Json
