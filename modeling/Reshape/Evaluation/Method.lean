import Reshape.Evaluation.Comparison
import Reshape.Expr.Method
import Reshape.Text.Blank
import Reshape.Text.Case

/-!
# Methods of values

What the methods do, once receiver and argument have values: tests on texts, membership in lists,
and texts made from a text. `IsNullOrEmpty` alone takes a null.
-/

namespace Reshape.Evaluation

/-- `isInfix part text` says `part` stands somewhere in `text`. -/
def isInfix (part : List Char) : List Char → Bool
  | [] => part.isEmpty
  | c :: rest => part.isPrefixOf (c :: rest) || isInfix part rest

/-- `textTest method text part` is the answer of a test on texts. -/
def textTest (method : Method) (text part : String) : Bool :=
  match method with
  | .startsWith => part.toList.isPrefixOf text.toList
  | .endsWith => part.toList.isSuffixOf text.toList
  | _ => isInfix part.toList text.toList

/-- `textOf value` is the text that a value has to be. -/
def textOf : Value → Except EvalError String
  | .string text => .ok text
  | value => .error (.typeMismatch "String" value.kind)

/-- `itemsOf value` are the items of the list that a value has to be. -/
def itemsOf : Value → Except EvalError (List Value)
  | .list items => .ok items
  | value => .error (.typeMismatch "List" value.kind)

/-- `booleanOf value` is the boolean that a value has to be. -/
def booleanOf : Value → Except EvalError Bool
  | .boolean value => .ok value
  | value => .error (.typeMismatch "Boolean" value.kind)

/-- `isMember value items` says some item is equal to `value`; it stops at the first. -/
def isMember (value : Value) : List Value → Except EvalError Bool
  | [] => .ok false
  | item :: rest => do
    if ← equal item value then return true else isMember value rest

/-- `partOf value` is the text that an argument has to be. -/
def partOf : Value → Except EvalError String
  | .null => .error (.argumentNull "value")
  | value => textOf value

/-- `withArgument method receiver argument` is the answer of a method with one argument. -/
def withArgument (method : Method) (receiver argument : Value) : Except EvalError Bool :=
  match method, receiver with
  | .contains, .list items => isMember argument items
  | method, receiver => do
    let text ← textOf receiver
    return textTest method text (← partOf argument)

/-- `textMethod method text` is the text that a method makes from one. -/
def textMethod (method : Method) (text : String) : String :=
  match method with
  | .toUpper => Text.toUpper text
  | .toLower => Text.toLower text
  | _ => Text.trimmed text

/-- `isNullOrEmpty value` says `value` is null or the empty text. -/
def isNullOrEmpty : Value → Except EvalError Bool
  | .null => .ok true
  | value => (textOf value).map (·.isEmpty)

/-- `someItem test items` says the test yields true for some item; it stops at the first. -/
def someItem (test : Value → Except EvalError Value) : List Value → Except EvalError Bool
  | [] => .ok false
  | item :: rest => do
    if ← booleanOf (← test item) then return true else someItem test rest

end Reshape.Evaluation
