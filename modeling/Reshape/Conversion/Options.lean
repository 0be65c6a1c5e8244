import Reshape.Entries
import Reshape.Expr.Text

/-!
# Conversion options

A member map gives destination names for source fields; a custom map may answer for a whole field
access; and the error handling says what becomes of an access without counterpart.
-/

namespace Reshape

/-- A `MemberMap` gives destination names for the names of source fields, each at most once. -/
structure MemberMap where
  entries : List (String × String)
deriving DecidableEq

namespace MemberMap

/-- `empty` maps nothing. -/
def empty : MemberMap := ⟨[]⟩

/-- `ofPairs pairs` maps as the pairs say; of pairs with one name the last counts. -/
def ofPairs (pairs : List (String × String)) : MemberMap :=
  ⟨pairs.foldl (fun entries pair => Entries.put pair.1 pair.2 entries) []⟩

/-- `map.target? name` is the destination name for a source field. -/
def target? (map : MemberMap) (name : String) : Option String := map.entries.lookup name

end MemberMap

/-- An `ErrorHandling` says what becomes of an access without counterpart: the conversion fails, or
the default value of the field's type takes its place. -/
inductive ErrorHandling where
  | throw
  | returnDefault
deriving DecidableEq

namespace ErrorHandling

/-- `handling.name` is the name in configurations. -/
def name : ErrorHandling → String
  | .throw => "Throw"
  | .returnDefault => "ReturnDefault"

/-- `ofName? name` is the error handling of that name. -/
def ofName? (name : String) : Option ErrorHandling :=
  [.throw, .returnDefault].find? fun handling => ErrorHandling.name handling == name

end ErrorHandling

/-- A `MemberAccess` is an access to a field of a target. -/
structure MemberAccess where
  target : Expr
  field : FieldDescriptor

/-- `access.toExpr` is the access as an expression. -/
def MemberAccess.toExpr (access : MemberAccess) : Expr := .member access.target access.field

/-- A `CustomMap` may answer for a field access, given the access as it was and the destination
parameter. -/
abbrev CustomMap := MemberAccess → Parameter → Option Expr

/-- `Options` steer a conversion. -/
structure Options where
  memberMap : Option MemberMap
  customMap : Option CustomMap
  errorHandling : ErrorHandling

namespace Options

/-- `default` has no maps and fails on an access without counterpart. -/
def default : Options := ⟨none, none, .throw⟩

/-- `options.mappedName? name` is the destination name that the member map gives. -/
def mappedName? (options : Options) (name : String) : Option String :=
  options.memberMap.bind fun map => map.target? name

end Options

end Reshape
