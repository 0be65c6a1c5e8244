import Reshape.Proofs.Document.Represents
import Reshape.Proofs.Value.Meaning

/-!
# Nulls among the constants of a document

The constants of a predicate are those of its document in the same order, each a value of the type
that the document gives it. Where the type says what stands there, null is read only from null, and
a constant that means no value of the type makes the document invalid (`nulls_of_bind`). A constant
without a type leaves everything open: an object is bound to null, as it is among the items of a
list of anything (`bounds_lost`).
-/

namespace Reshape

/-! ## Constants -/

namespace Expr

/-- `e.constant?` is the value of a constant, with its type. -/
def constant? : Expr → Option (Value × FieldType)
  | .constant value type => some (value, type)
  | _ => none

/-- `e.constants` are the constants in an expression, each with its type. -/
def constants (e : Expr) : List (Value × FieldType) := e.nodes.filterMap constant?

/-- The constants in an expression are itself, if it is one, and those in its direct parts. -/
theorem constants_eq (e : Expr) :
    e.constants = e.constant?.toList ++ e.children.flatMap constants := by
  rw [constants, nodes_eq, List.filterMap_cons, List.filterMap_flatMap]
  cases e.constant? <;> rfl

end Expr

namespace Document

variable {registry : Registry} {root : Parameter} {lambdas : List Parameter} {node : Node}
  {e : Expr} {json : Json} {text : Option String} {type : FieldType}

/-- `declaredType text` is the type under which a constant of a document is read. -/
def declaredType : Option String → Except Error FieldType
  | some text => readType text
  | none => .ok .any

/-- `ReadFrom constant bound` says that a constant of a document is read as a constant. -/
def ReadFrom (constant : Json × Option String) (bound : Value × FieldType) : Prop :=
  ∃ type, declaredType constant.2 = .ok type ∧ Value.ofJson? type constant.1 = .ok bound.1

/-- A constant that is bound was read from its JSON. -/
theorem readFrom_of_bindConstant {value : Value}
    (h : bindConstant json text = .ok (.constant value type)) :
    ReadFrom (json, text) (value, type) := by
  cases text with
  | some text =>
      obtain ⟨_, _, htype, hvalue, ⟨⟩⟩ := bindConstant_some.1 h
      exact ⟨type, htype, readConstant_eq_ok.1 hvalue⟩
  | none =>
      obtain ⟨_, hvalue, ⟨⟩⟩ := bindConstant_none.1 h
      exact ⟨.any, rfl, readConstant_eq_ok.1 hvalue⟩

attribute [local simp] Expr.constants_eq Expr.constant? Expr.children Node.constants

/-- The constants of an expression are read from those of the node that stands for it, one by
one. -/
theorem Represents.constants (h : Represents registry root lambdas node e) :
    List.Forall₂ ReadFrom node.constants e.constants := by
  induction h with
  | parameter => simp
  | member _ _ _ ih => simpa using ih
  | constant hconstant => simpa using readFrom_of_bindConstant hconstant
  | binary _ _ ihleft ihright => simpa using List.rel_append ihleft ihright
  | unary _ ih => simpa using ih
  | @call _ _ _ _ arguments arguments' _ hlength _ ihreceiver iharguments =>
      have hpairs := List.forall₂_iff_zip.2 ⟨hlength, fun hmem => iharguments _ _ hmem⟩
      have harguments : List.Forall₂ ReadFrom (arguments.flatMap Node.constants)
          (arguments'.flatMap Expr.constants) := List.rel_flatMap hpairs fun _ _ h => h
      simpa [Node.constantsOfArguments_eq] using List.rel_append ihreceiver harguments
  | conditional _ _ _ ihtest ihtrue ihfalse =>
      simpa using List.rel_append ihtest (List.rel_append ihtrue ihfalse)
  | lambda _ _ ih => simpa using ih
  | @init _ _ bindings bindings' hnames _ ih =>
      have hlength : bindings.length = bindings'.length := by
        simpa using congrArg List.length hnames
      have hpairs := List.forall₂_iff_zip.2 ⟨hlength, fun hmem => ih _ _ hmem⟩
      have hbindings : List.Forall₂ ReadFrom (bindings.flatMap fun b => b.2.constants)
          (bindings'.flatMap fun b' => b'.2.constants) := List.rel_flatMap hpairs fun _ _ h => h
      simpa [Node.constantsOfBindings_eq, List.flatMap_map] using hbindings

/-! ## Binding -/

/-- A constant makes the document invalid exactly when it is not read under its type. -/
theorem bindConstant_invalid_iff (htype : declaredType text = .ok type) :
    (∃ message, bindConstant json text = .error (invalid message)) ↔
      ¬ ∃ value, Value.ofJson? type json = .ok value := by
  cases text with
  | some text =>
      replace htype : readType text = .ok type := htype
      cases hresult : Value.ofJson? type json with
      | ok value =>
          have hbound : bindConstant json (some text) = .ok (.constant value type) :=
            bindConstant_some.2 ⟨type, value, htype, readConstant_eq_ok.2 hresult, rfl⟩
          simp [hbound]
      | error error =>
          have hread : readConstant type json = .error
              (invalid ("Invalid constant " ++ json.compact ++ ": " ++ error.message)) := by
            rw [readConstant, hresult]
          have hinvalid : bindConstant json (some text) = .error
              (invalid ("Invalid constant " ++ json.compact ++ ": " ++ error.message)) := by
            rw [bindConstant, htype]
            show (readConstant type json >>= fun value => pure (Expr.constant value type)) = _
            rw [hread]
            rfl
          refine iff_of_true ⟨_, hinvalid⟩ ?_
          rintro ⟨_, ⟨⟩⟩
  | none =>
      cases htype
      have hread := Value.ofJson_any json
      have hbound : bindConstant json none = .ok (.ofValue (Value.ofPlainJson json)) :=
        bindConstant_none.2 ⟨_, readConstant_eq_ok.2 hread, rfl⟩
      simp [hbound, hread]

/-- `Meant registry constant bound` says that a constant of a document is bound to a value of its
type that it means, with null only where the JSON has it or where JSON that cannot be represented
stands at a depth that the type leaves open. -/
def Meant (registry : Registry) (constant : Json × Option String) (bound : Value × FieldType) :
    Prop :=
  ∃ type, declaredType constant.2 = .ok type ∧ registry.Conforms type bound.1 ∧
    constant.1.Means type.leavesOpen bound.1 ∧ constant.1.NullsFrom type.leavesOpen bound.1

/-- The constants of a predicate are those of its document in the same order, each bound to what it
means. A constant is invalid exactly when it means no value of its type, and a document with an
invalid constant is not bound. -/
theorem nulls_of_bind (registry : Registry) (document : Document) (identity : Nat) :
    (∀ predicate next, document.bind registry identity = .ok (predicate, next) →
      List.Forall₂ (Meant registry) document.body.constants predicate.body.constants) ∧
    ∀ json text type, (json, text) ∈ document.body.constants → declaredType text = .ok type →
      ((∃ message, bindConstant json text = .error (invalid message)) ↔
        ¬ ∃ value, registry.Conforms type value ∧ json.Means type.leavesOpen value) ∧
      ∀ message, bindConstant json text = .error (invalid message) →
        ∀ bound, document.bind registry identity ≠ .ok bound := by
  constructor
  · intro predicate next hbind
    refine (bind_represents hbind).1.constants.imp fun constant bound => ?_
    rintro ⟨type, htype, hread⟩
    have hmeans := Registry.means_of_ofJson hread
    exact ⟨type, htype, Registry.ofJson_conforms hread, hmeans, hmeans.nullsFrom⟩
  · intro json text type hmem htype
    refine ⟨?_, ?_⟩
    · rw [bindConstant_invalid_iff htype, Registry.exists_ofJson_iff]
    · rintro message hinvalid ⟨predicate, next⟩ hbind
      -- in a document that is bound every constant was read, this one too
      obtain ⟨bound, _, type', htype', hread⟩ :=
        exists_right_of_forall₂ (bind_represents hbind).1.constants hmem
      exact (bindConstant_invalid_iff htype').1 ⟨message, hinvalid⟩ ⟨_, hread⟩

end Document

/-! ## An object among constants -/

namespace Sample

open Document

/-- `bounds` is an object, which means no value. -/
def bounds : Json := .object [("min", .number (.integer 1))]

/-- `textDocument` asks for an order whose note is an object that is given as a text. -/
def textDocument : Document where
  parameter := some "o"
  shape := "Order"
  body := .binary .equal (.member (.parameter (some "o")) "Note") (.constant bounds (some "String"))

theorem readType_text : readType "String" = .ok .string :=
  readType_eq_ok.2 (@FieldType.read_render .string trivial)

/-- The constants of `document` are bound to what they mean, and an object that is given as a text
makes a document invalid. -/
theorem constants_meant :
    document.bind registry 0 = .ok (documented, 2) ∧
      List.Forall₂ (Meant registry) document.body.constants documented.body.constants ∧
      (bounds, some "String") ∈ textDocument.body.constants ∧
      ∀ bound, textDocument.bind registry 0 ≠ .ok bound := by
  have hmem : (bounds, some "String") ∈ textDocument.body.constants := List.mem_singleton_self _
  have hmeaningless : ¬ ∃ value, registry.Conforms .string value ∧
      bounds.Means FieldType.string.leavesOpen value := by
    rintro ⟨value, _, hmeans⟩
    cases hmeans with
    | lost hopen => cases hopen
  obtain ⟨hinvalid, hunbound⟩ := (nulls_of_bind registry textDocument 0).2 _ _ _ hmem readType_text
  obtain ⟨message, hmessage⟩ := hinvalid.2 hmeaningless
  exact ⟨bind_document, (nulls_of_bind registry document 0).1 _ _ bind_document, hmem,
    hunbound message hmessage⟩

/-- `boundedDocument` asks for an order whose note is an object or among a text and an object. -/
def boundedDocument : Document where
  parameter := some "o"
  shape := "Order"
  body := .binary .or
    (.binary .equal (.member (.parameter (some "o")) "Note") (.constant bounds none))
    (.call .contains (.constant (.array [.string "fragile", bounds]) (some "List<Any>"))
      [.member (.parameter (some "o")) "Note"])

/-- `bounded` is what `boundedDocument` is bound to. -/
def bounded : Predicate where
  parameter := noted
  body := .binary .or
    (.binary .equal (.member (.parameter noted) ⟨"Note", .string, "Order"⟩)
      (.constant .null .any))
    (.call .contains (.constant (.list [.string "fragile", .null]) (.list .any))
      [.member (.parameter noted) ⟨"Note", .string, "Order"⟩])

theorem readType_anything : readType "List<Any>" = .ok (.list .any) :=
  readType_eq_ok.2 (@FieldType.read_render (.list .any) trivial)

/-- An object is bound to null, by itself and in a list. -/
theorem bounds_lost :
    boundedDocument.bind registry 0 = .ok (bounded, 1) ∧
      boundedDocument.body.constants =
        [(bounds, none), (.array [.string "fragile", bounds], some "List<Any>")] ∧
      bounded.body.constants =
        [(.null, .any), (.list [.string "fragile", .null], .list .any)] ∧
      bounds.isNull = false := by
  refine ⟨?_, rfl, rfl, rfl⟩
  simp only [Document.bind, bindFrom, boundedDocument, bindNode, bindArguments, bindConstant,
    readType_anything]
  rfl

end Sample

end Reshape
