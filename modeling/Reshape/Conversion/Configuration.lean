import Reshape.Conversion.Options
import Reshape.Json.Fields
import Reshape.Json.Printer

/-!
# Conversion configurations

The part of the options that can be written down: the member map and the error handling. A
configuration may have no members but these two.
-/

namespace Reshape

/-- A `Configuration` is a member map and an error handling. -/
structure Configuration where
  memberMap : Option MemberMap
  errorHandling : ErrorHandling
deriving DecidableEq

namespace Configuration

open Json

/-- `pair? member` is a name with the text that it maps to. -/
def pair? (member : String × Json) : Option (String × String) :=
  member.2.string?.map (member.1, ·)

/-- `memberMap? field` is a member map, if the field is there and not null. -/
def memberMap? (field : Option Raw) : Option (Option MemberMap) := do
  match ← Raw.value? field with
  | none => return none
  | some .null => return none
  | some (.object members) => return some (MemberMap.ofPairs (← members.mapM pair?))
  | some _ => none

/-- `errorHandling? field` is an error handling: its name, or an object with the name as its only
member and no value. It is to fail when the field is absent. -/
def errorHandling? (field : Option Raw) : Option ErrorHandling := do
  match ← Raw.value? field with
  | none => return .throw
  | some (.string name) => ErrorHandling.ofName? name
  | some (.object [(name, .null)]) => ErrorHandling.ofName? name
  | some _ => none

/-- `ofRaw? raw` reads a configuration. -/
def ofRaw? (raw : Raw) : Option Configuration := do
  match ← raw.fields? ["memberMap", "errorHandling"] true with
  | [memberMap, errorHandling] =>
    return ⟨← memberMap? memberMap, ← errorHandling? errorHandling⟩
  | _ => none

/-- `invalid` says that a text is no configuration. -/
def invalid : Error :=
  .configuration ErrorCode.invalidConfiguration "Invalid conversion configuration"

/-- `ofText text` is the configuration that `text` holds. -/
def ofText (text : String) : Except Error Configuration :=
  match (Raw.read? text).bind ofRaw? with
  | some configuration => .ok configuration
  | none => .error invalid

/-- `configuration.options` are the options that the configuration stands for. -/
def options (configuration : Configuration) : Options :=
  ⟨configuration.memberMap, none, configuration.errorHandling⟩

/-- `configuration.toJson` is the configuration as an object. -/
def toJson (configuration : Configuration) : Json :=
  .object (
    (match configuration.memberMap with
      | some map => [("memberMap", .object (map.entries.map fun pair => (pair.1, .string pair.2)))]
      | none => []) ++
    [("errorHandling", .string configuration.errorHandling.name)])

end Configuration

end Reshape
