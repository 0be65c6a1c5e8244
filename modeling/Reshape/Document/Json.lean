import Reshape.Document.Basic
import Reshape.Json.Fields
import Reshape.Json.Printer

/-!
# Predicate documents as JSON

A node is an object with a member `kind` and the fields of that kind, or an array of the kind and
the fields in order. Inside another node the kind may also be given by its number. Operators and
methods are given by name, or by an object with the name as its only member and nothing as its
value.
-/

namespace Reshape

/-- A `NodeKind` is the kind of a node. -/
inductive NodeKind where
  | parameter
  | member
  | constant
  | binary
  | unary
  | call
  | conditional
  | lambda
  | init
deriving DecidableEq

namespace NodeKind

/-- `all` are the kinds, in the order of their numbers. -/
def all : List NodeKind :=
  [.parameter, .member, .constant, .binary, .unary, .call, .conditional, .lambda, .init]

/-- `kind.name` is the kind in a document. -/
def name : NodeKind → String
  | .parameter => "parameter"
  | .member => "member"
  | .constant => "constant"
  | .binary => "binary"
  | .unary => "unary"
  | .call => "call"
  | .conditional => "conditional"
  | .lambda => "lambda"
  | .init => "init"

/-- `kind.fields` are the names of the fields, in order. -/
def fields : NodeKind → List String
  | .parameter => ["name"]
  | .member => ["target", "field"]
  | .constant => ["value", "type"]
  | .binary => ["op", "left", "right"]
  | .unary => ["op", "operand"]
  | .call => ["method", "receiver", "arguments"]
  | .conditional => ["test", "ifTrue", "ifFalse"]
  | .lambda => ["parameter", "type", "body"]
  | .init => ["shape", "bindings"]

/-- `ofJson? inner json` is the kind that `json` gives, a number only if the node is an inner one.
-/
def ofJson? (inner : Bool) : Json → Option NodeKind
  | .string name => all.find? fun kind => kind.name == name
  | .number (.integer (.ofNat n)) => if inner then all[n]? else none
  | _ => none

end NodeKind

namespace Node

/-- `variant? json` is the name that an operator or a method is given by. -/
def variant? : Option Json → Option String
  | some (.string name) => some name
  | some (.object [(name, .null)]) => some name
  | some (.object [(name, .object [])]) => some name
  | _ => none

/-- `tagged? inner json` is the kind of a node and the rest of it. -/
def tagged? (inner : Bool) : Json → Option (NodeKind × Json)
  | .object members =>
    match members.filter fun member => member.1 == "kind" with
    | [kind] => do
      let kind ← NodeKind.ofJson? inner kind.2
      return (kind, .object (members.filter fun member => member.1 != "kind"))
    | _ => none
  | .array (kind :: rest) => do
    let kind ← NodeKind.ofJson? inner kind
    return (kind, .array rest)
  | _ => none

/-- `items? field` are the items of a list. -/
def items? : Option Json → Option (List Json)
  | some (.array items) => some items
  | _ => none

/-- `within? room inner json` reads a node in which nodes are nested at most `room` deep. -/
def within? : Nat → Bool → Json → Option Node
  | 0, _, _ => none
  | room + 1, inner, json => do
    let (kind, rest) ← tagged? inner json
    let part (field : Option Json) : Option Node := field.bind (within? room true)
    match kind, ← rest.fields? kind.fields with
    | .parameter, [name] => return .parameter (← Json.optionalText? name)
    | .member, [target, field] => return .member (← part target) (← Json.requiredText? field)
    | .constant, [value, type] => return .constant (← value).canonical (← Json.optionalText? type)
    | .binary, [op, left, right] =>
      return .binary (← (variant? op).bind BinaryOp.ofName?) (← part left) (← part right)
    | .unary, [op, operand] =>
      return .unary (← (variant? op).bind UnaryOp.ofName?) (← part operand)
    | .call, [method, receiver, arguments] =>
      let items ← if arguments.isNone then some [] else items? arguments
      return .call (← (variant? method).bind Method.ofName?) (← part receiver)
        (← items.mapM (within? room true))
    | .conditional, [test, ifTrue, ifFalse] =>
      return .conditional (← part test) (← part ifTrue) (← part ifFalse)
    | .lambda, [name, type, body] =>
      return .lambda (← Json.optionalText? name) (← Json.requiredText? type) (← part body)
    | .init, [shape, bindings] =>
      let bindings ← (← items? bindings).mapM fun binding => do
        match ← binding.fields? ["field", "value"] with
        | [field, value] => return (← Json.requiredText? field, ← part value)
        | _ => none
      return .init (← Json.requiredText? shape) bindings
    | _, _ => none

/-- `ofJson? json` reads the body of a document. Nodes are nested no deeper than JSON is. -/
def ofJson? (json : Json) : Option Node := within? Json.nestingLimit false json

/-- `tag kind fields` is a node of a kind with fields. -/
def tag (kind : NodeKind) (fields : List (String × Json)) : Json :=
  .object (("kind", .string kind.name) :: fields)

mutual
/-- `node.toJson` is the node as an object, with the kind first and the fields in order. -/
def toJson : Node → Json
  | .parameter name => tag .parameter (Json.textMember "name" name)
  | .member target field => tag .member [("target", target.toJson), ("field", .string field)]
  | .constant value type => tag .constant (("value", value) :: Json.textMember "type" type)
  | .binary op left right =>
    tag .binary [("op", .string op.name), ("left", left.toJson), ("right", right.toJson)]
  | .unary op operand => tag .unary [("op", .string op.name), ("operand", operand.toJson)]
  | .call method receiver [] =>
    tag .call [("method", .string method.name), ("receiver", receiver.toJson)]
  | .call method receiver (argument :: rest) =>
    tag .call [("method", .string method.name), ("receiver", receiver.toJson),
      ("arguments", .array (argument.toJson :: toJsonItems rest))]
  | .conditional test ifTrue ifFalse =>
    tag .conditional [("test", test.toJson), ("ifTrue", ifTrue.toJson), ("ifFalse", ifFalse.toJson)]
  | .lambda name type body =>
    tag .lambda
      (Json.textMember "parameter" name ++ [("type", .string type), ("body", body.toJson)])
  | .init shape bindings =>
    tag .init [("shape", .string shape), ("bindings", .array (toJsonBindings bindings))]

/-- `toJsonItems nodes` are the nodes as objects. -/
def toJsonItems : List Node → List Json
  | [] => []
  | node :: rest => node.toJson :: toJsonItems rest

/-- `toJsonBindings bindings` are the bindings as objects. -/
def toJsonBindings : List (String × Node) → List Json
  | [] => []
  | (field, value) :: rest =>
    .object [("field", .string field), ("value", value.toJson)] :: toJsonBindings rest
end

end Node

namespace Document

/-- `ofRaw? raw` reads a document. Its body starts one level down. -/
def ofRaw? (raw : Json.Raw) : Option Document := do
  match ← raw.fields? ["parameter", "shape", "body"] false with
  | [parameter, shape, body] =>
    let body ← Json.ofRaw? (Json.nestingLimit - 1) (← body)
    return ⟨← Json.Raw.optionalText? parameter, ← Json.Raw.requiredText? shape, ← Node.ofJson? body⟩
  | _ => none

/-- `document.toJson` is the document as an object. -/
def toJson (document : Document) : Json :=
  .object (Json.textMember "parameter" document.parameter ++
    [("shape", .string document.shape), ("body", document.body.toJson)])

end Document

end Reshape
