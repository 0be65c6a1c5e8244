import Reshape.Json.Raw

/-!
# JSON values

`Json` is a value with its numbers and texts understood. Members of an object stay in written
order; `Json.canonical` sorts them by name and keeps the last of those with one name, which is how
an object is held when it is read as plain data. Reading a `Raw` fails on a number that is too
large, on an escape that is half of a surrogate pair, and on nesting deeper than `nestingLimit`.
-/

namespace Reshape

/-- A `Json` is a JSON value. -/
inductive Json where
  | null
  | bool (value : Bool)
  | number (value : Json.Number)
  | string (value : String)
  | array (items : List Json)
  | object (members : List (String × Json))
deriving Inhabited

namespace Json

/-- Arrays and objects may be nested this deep. -/
def nestingLimit : Nat := 127

/-- `hexDigit c` is the value of a hexadecimal digit. -/
def hexDigit (c : Char) : Nat :=
  if c.isDigit then c.toNat - 48 else c.toLower.toNat - 87

/-- `hexValue cs` is the number written by hexadecimal digits. -/
def hexValue (cs : List Char) : Nat :=
  cs.foldl (fun value c => value * 16 + hexDigit c) 0

/-- `escapeValue c` is the character that a backslash before `c` stands for. -/
def escapeValue (c : Char) : Char :=
  match c with
  | 'b' => '\x08'
  | 'f' => '\x0c'
  | 'n' => '\n'
  | 'r' => '\r'
  | 't' => '\t'
  | c => c

/-- `unescape? cs` replaces the escapes in `cs`, or is `none` when a surrogate stands alone. -/
def unescape? : List Char → Option (List Char)
  | '\\' :: 'u' :: a :: b :: c :: d :: '\\' :: 'u' :: e :: f :: g :: h :: rest =>
    let high := hexValue [a, b, c, d]
    let low := hexValue [e, f, g, h]
    if 0xD800 ≤ high && high < 0xDC00 then
      if 0xDC00 ≤ low && low < 0xE000 then
        (unescape? rest).map
          (Char.ofNat (0x10000 + (high - 0xD800) * 0x400 + (low - 0xDC00)) :: ·)
      else none
    else if 0xDC00 ≤ high && high < 0xE000 then none
    else (unescape? ('\\' :: 'u' :: e :: f :: g :: h :: rest)).map (Char.ofNat high :: ·)
  | '\\' :: 'u' :: a :: b :: c :: d :: rest =>
    let code := hexValue [a, b, c, d]
    if 0xD800 ≤ code && code < 0xE000 then none
    else (unescape? rest).map (Char.ofNat code :: ·)
  | '\\' :: c :: rest => (unescape? rest).map (escapeValue c :: ·)
  | c :: rest => (unescape? rest).map (c :: ·)
  | [] => some []

/-- `text? cs` is the text written `cs` between quotes. -/
def text? (cs : List Char) : Option String :=
  (unescape? cs).map String.ofList

mutual
/-- `ofRaw? room raw` is the value of `raw`, in which containers may be nested `room` deep. -/
def ofRaw? (room : Nat) : Raw → Option Json
  | .null => some .null
  | .bool value => some (.bool value)
  | .number text => (Number.ofText? text).map .number
  | .string text => (text? text).map .string
  | .array items => if room = 0 then none else (itemsOfRaw? (room - 1) items).map .array
  | .object members => if room = 0 then none else (membersOfRaw? (room - 1) members).map .object

/-- `itemsOfRaw? room items` are the values of a list of items. -/
def itemsOfRaw? (room : Nat) : List Raw → Option (List Json)
  | [] => some []
  | item :: rest => do
    let value ← ofRaw? room item
    return value :: (← itemsOfRaw? room rest)

/-- `membersOfRaw? room members` are the values of a list of members. -/
def membersOfRaw? (room : Nat) : List (List Char × Raw) → Option (List (String × Json))
  | [] => some []
  | (name, member) :: rest => do
    let name ← text? name
    let value ← ofRaw? room member
    return (name, value) :: (← membersOfRaw? room rest)
end

/-- `insertMember name value members` puts a member into a list sorted by name, over one of that
name. -/
def insertMember (name : String) (value : Json) : List (String × Json) → List (String × Json)
  | [] => [(name, value)]
  | (other, old) :: rest =>
    if name < other then (name, value) :: (other, old) :: rest
    else if name = other then (name, value) :: rest
    else (other, old) :: insertMember name value rest

/-- `sortMembers members` is sorted by name and holds the last member of each name. -/
def sortMembers (members : List (String × Json)) : List (String × Json) :=
  members.foldl (fun sorted member => insertMember member.1 member.2 sorted) []

mutual
/-- `json.canonical` is `json` as plain data: members sorted by name, the last of each name kept. -/
def canonical : Json → Json
  | .array items => .array (canonicalItems items)
  | .object members => .object (sortMembers (canonicalMembers members))
  | json => json

/-- `canonicalItems items` makes every item canonical. -/
def canonicalItems : List Json → List Json
  | [] => []
  | item :: rest => item.canonical :: canonicalItems rest

/-- `canonicalMembers members` makes the value of every member canonical. -/
def canonicalMembers : List (String × Json) → List (String × Json)
  | [] => []
  | (name, value) :: rest => (name, value.canonical) :: canonicalMembers rest
end

/-- `read? s` is the value of the text `s` as plain data. -/
def read? (s : String) : Option Json := do
  return (← ofRaw? nestingLimit (← Raw.read? s)).canonical

/-- `json.isNull` says `json` is `null`. -/
def isNull : Json → Bool
  | .null => true
  | _ => false

/-- `json.string?` is the text that `json` is. -/
def string? : Json → Option String
  | .string value => some value
  | _ => none

/-- `ofOption toJson value?` is `null` for no value. -/
def ofOption {α : Type} (toJson : α → Json) : Option α → Json
  | some value => toJson value
  | none => .null

/-- `textMember name text?` is a member for a text that is there. -/
def textMember (name : String) : Option String → List (String × Json)
  | some text => [(name, .string text)]
  | none => []

/-- `integer n` is the number `n`. -/
def integer (n : Int) : Json := .number (.integer n)

end Json

end Reshape
