import Reshape.FieldType
import Reshape.Text.Alphanumeric
import Reshape.Text.Blank

/-!
# Field types as texts

`FieldType.render` writes an optional type with a question mark and a list as `List<…>`.
`FieldType.ofChars?` reads such texts, with blanks allowed around every part. A question mark at the
end is looked at first, so `List<T>?` is an optional list.
-/

namespace Reshape.FieldType

/-- `type.render` is `type` as a text. -/
def render : FieldType → String
  | .any => "Any"
  | .boolean => "Boolean"
  | .integer => "Integer"
  | .long => "Long"
  | .decimal => "Decimal"
  | .string => "String"
  | .dateTime => "DateTime"
  | .optional inner => inner.render ++ "?"
  | .list element => "List<" ++ element.render ++ ">"
  | .shape name => name

/-- `isNamePart c` says `c` can stand in the name of a shape. -/
def isNamePart (c : Char) : Bool :=
  Text.isAlphanumeric c || c == '_' || c == '.'

/-- `named? cs` is the type that a text without brackets and question mark names. -/
def named? (cs : List Char) : Option FieldType :=
  match String.ofList cs with
  | "Any" => some .any
  | "Boolean" => some .boolean
  | "Integer" => some .integer
  | "Long" => some .long
  | "Decimal" => some .decimal
  | "String" => some .string
  | "DateTime" => some .dateTime
  | name => if cs.all isNamePart then some (.shape name) else none

/-- A `Layer` is the outermost part of the text of a type: what makes it optional or a list, with
the shorter text inside, a list whose bracket is not closed, or a name. -/
inductive Layer (text : List Char) where
  | optional (inner : List Char) (shorter : inner.length < text.length)
  | list (element : List Char) (shorter : element.length < text.length)
  | unclosed
  | name

/-- Dropping the last of some characters makes a text shorter. -/
theorem dropLast_length_lt {cs : List Char} (h : cs ≠ []) : cs.dropLast.length < cs.length := by
  have := List.length_pos_iff.mpr h
  rw [List.length_dropLast]
  omega

/-- What stands between `List<` and the last character is shorter than the whole. -/
theorem element_length_lt (a b c d e : Char) (rest : List Char) :
    rest.dropLast.length < (a :: b :: c :: d :: e :: rest).length := by
  rw [List.length_dropLast]
  exact Nat.lt_succ_of_le (Nat.le_trans (Nat.sub_le _ _) (Nat.le_add_right _ 4))

/-- `layer text` is the outermost part of a text without blanks around it. -/
def layer (text : List Char) : Layer text :=
  if present : text ≠ [] ∧ text.getLast? = some '?' then
    .optional text.dropLast (dropLast_length_lt present.1)
  else
    match text with
    | 'L' :: 'i' :: 's' :: 't' :: '<' :: rest =>
      if rest.getLast? = some '>' then .list rest.dropLast (element_length_lt ..) else .unclosed
    | _ => .name

/-- `ofChars? cs` is the type written `cs`, or the part of `cs` that is no type. -/
def ofChars? (cs : List Char) : Except String FieldType :=
  match layer (Text.trim cs) with
  | .optional inner _ => (ofChars? inner).map .optional
  | .list element _ => (ofChars? element).map .list
  | .unclosed => .error (String.ofList (Text.trim cs))
  | .name =>
    match Text.trim cs, named? (Text.trim cs) with
    | _ :: _, some type => .ok type
    | text, _ => .error (String.ofList text)
termination_by cs.length
decreasing_by all_goals exact Nat.lt_of_lt_of_le ‹_› (Text.trim_length_le cs)

/-- `read? s` is the type that the text `s` stands for, or the part of `s` that is no type. -/
def read? (s : String) : Except String FieldType := ofChars? s.toList

/-- `readError part` says that `part` is no type. -/
def readError (part : String) : String :=
  "Invalid field type: '" ++ part ++ "'"

end Reshape.FieldType
