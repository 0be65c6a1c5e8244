import Reshape.Json.Basic

/-!
# Fields of a document

A document with known fields is written as an object, or as an array of the fields in their order.
In an object a known field may stand at most once; members of other names are ignored unless
`strict` is set. In an array the last fields may be left out, and nothing may follow.
-/

namespace Reshape

namespace Json

/-- `arrange? names strict members` finds the value of each name, or `none` for a name that is
absent. -/
def arrange? {α : Type} (names : List String) (strict : Bool) (members : List (String × α)) :
    Option (List (Option α)) :=
  if strict && members.any (fun member => !names.contains member.1) then none
  else
    names.mapM fun name =>
      match members.filter (fun member => member.1 == name) with
      | [] => some none
      | [member] => some (some member.2)
      | _ => none

/-- `inOrder? names items` gives the items to the names in order. -/
def inOrder? {α : Type} (names : List String) (items : List α) : Option (List (Option α)) :=
  if items.length ≤ names.length then
    some (items.map some ++ List.replicate (names.length - items.length) none)
  else none

/-- `json.fields? names` are the fields of a document that has been read already. -/
def fields? (names : List String) : Json → Option (List (Option Json))
  | .object members => arrange? names false members
  | .array items => inOrder? names items
  | _ => none

/-- `requiredText? field` is the text of a field that must be there. -/
def requiredText? : Option Json → Option String
  | some (.string text) => some text
  | _ => none

/-- `optionalText? field` is the text of a field that may be absent or null. -/
def optionalText? : Option Json → Option (Option String)
  | none => some none
  | some .null => some none
  | some (.string text) => some (some text)
  | some _ => none

end Json

namespace Json.Raw

/-- `raw.fields? names strict` are the fields of a document. -/
def fields? (names : List String) (strict : Bool) : Raw → Option (List (Option Raw))
  | .object members => do
    let members ← members.mapM fun member => (text? member.1).map (·, member.2)
    arrange? names strict members
  | .array items => inOrder? names items
  | _ => none

/-- `value? field` understands a field, if it is there. -/
def value? : Option Raw → Option (Option Json)
  | some raw => (ofRaw? nestingLimit raw).map some
  | none => some none

/-- `requiredText? field` is the text of a field that must be there. -/
def requiredText? (field : Option Raw) : Option String := do
  Json.requiredText? (← value? field)

/-- `optionalText? field` is the text of a field that may be absent or null. -/
def optionalText? (field : Option Raw) : Option (Option String) := do
  Json.optionalText? (← value? field)

/-- `items? field` are the items of a list that may be absent. -/
def items? : Option Raw → Option (List Raw)
  | none => some []
  | some (.array items) => some items
  | some _ => none

end Json.Raw

end Reshape
