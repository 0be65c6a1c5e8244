import Reshape.Proofs.Conversion.Binding
import Reshape.Proofs.Document.Binding
import Reshape.Proofs.Elementwise
import Reshape.Proofs.FieldType.Text

/-!
# Expressions that documents stand for

`Represents` says which expression a node of a document stands for, form by form: a name stands for
the innermost parameter around that has it, a field for what the registry finds on the static type
of its target, a constant for its value, and every other node for the expression of its kind.
`bind_represents` says that binding a document gives a predicate that the document stands for.

Binding counts identities up, so the parameters around a node differ in their identities. That is
why the innermost parameter of a name is also what references to it denote (`referent_of_binder`).
-/

namespace Reshape

open Conversion (Referent referent)

/-- The parameters of an expression came before an identity when those of its parts and its own
did. -/
theorem Expr.olderThan_of_children {e : Expr} {identity : Nat}
    (hparts : ∀ part ∈ e.children, part.OlderThan identity)
    (hown : ∀ p, e.own? = some p → p.identity < identity) : e.OlderThan identity :=
  forall_parameters_iff.2 ⟨hown, hparts⟩

theorem Expr.OlderThan.mono {e : Expr} {identity later : Nat} (h : e.OlderThan identity)
    (hle : identity ≤ later) : e.OlderThan later :=
  fun p hp => Nat.lt_of_lt_of_le (h p hp) hle

/-! ## Binders by name and by identity -/

namespace Conversion

/-- `referent.binder? root lambdas` is the parameter that a referent is, in a predicate over `root`
inside lambdas over the given parameters, the innermost first. -/
def Referent.binder? (root : Parameter) (lambdas : List Parameter) : Referent → Option Parameter
  | .lambda depth => lambdas[depth]?
  | .root => some root
  | .free => none

/-- What refers past the innermost lambda finds its binder among the outer ones. -/
theorem Referent.binder_outward (root p : Parameter) (lambdas : List Parameter) (r : Referent) :
    r.outward.binder? root (p :: lambdas) = r.binder? root lambdas := by
  cases r <;> rfl

/-- A binder is one of the lambdas or the root. -/
theorem Referent.mem_of_binder {root p : Parameter} {lambdas : List Parameter} {r : Referent}
    (h : r.binder? root lambdas = some p) : p ∈ lambdas ++ [root] := by
  cases r with
  | lambda depth => exact List.mem_append_left _ (List.mem_of_getElem? h)
  | root =>
      cases h
      exact List.mem_append_right _ (List.mem_singleton_self _)
  | free => cases h

theorem Referent.ne_free_of_binder {root p : Parameter} {lambdas : List Parameter} {r : Referent}
    (h : r.binder? root lambdas = some p) : r ≠ .free := by
  rintro rfl
  cases h

/-- Among parameters that differ in their identities, a binder is what references to its parameter
denote. -/
theorem referent_of_binder {root p : Parameter} {lambdas : List Parameter} {r : Referent}
    (hdistinct : ((lambdas ++ [root]).map Parameter.identity).Nodup)
    (h : r.binder? root lambdas = some p) : referent root lambdas p = r := by
  induction lambdas generalizing r with
  | nil =>
      cases r with
      | lambda depth => cases h
      | root =>
          cases h
          simp [referent]
      | free => cases h
  | cons binder lambdas ih =>
      rw [List.cons_append, List.map_cons, List.nodup_cons] at hdistinct
      -- a binder further outside has another identity than the innermost
      have houter : ∀ r : Referent, r.binder? root lambdas = some p →
          referent root (binder :: lambdas) p = r.outward := by
        intro r hr
        have hother : ¬ binder.denotes p := by
          rw [Parameter.denotes_iff]
          intro heq
          exact hdistinct.1 (heq ▸ List.mem_map_of_mem (Referent.mem_of_binder hr))
        rw [referent, if_neg hother, ih hdistinct.2 hr]
      cases r with
      | lambda depth =>
          cases depth with
          | zero =>
              cases h
              simp [referent]
          | succ depth => exact houter (.lambda depth) h
      | root => exact houter .root h
      | free => cases h

/-- What references to a parameter denote is the innermost binder with its identity. -/
theorem find_denotes (root p : Parameter) (lambdas : List Parameter) :
    ((lambdas ++ [root]).find? fun q => q.denotes p) =
      (referent root lambdas p).binder? root lambdas := by
  induction lambdas with
  | nil =>
      by_cases hdenotes : root.denotes p
      · simp [referent, hdenotes, Referent.binder?]
      · simp [referent, hdenotes, Referent.binder?]
  | cons binder lambdas ih =>
      by_cases hdenotes : binder.denotes p
      · simp [referent, hdenotes, Referent.binder?]
      · rw [referent, if_neg hdenotes, Referent.binder_outward, List.cons_append, ← ih]
        exact List.find?_cons_of_neg hdenotes

end Conversion

namespace Document

/-- `namedReferent root lambdas name` is the innermost parameter that has a name, `root` being the
name of the parameter of the predicate and `lambdas` those of the parameters of the lambdas around,
the innermost first. -/
def namedReferent (root : Option String) : List (Option String) → Option String → Referent
  | [], name => if root = name then .root else .free
  | binder :: lambdas, name =>
    if binder = name then .lambda 0 else (namedReferent root lambdas name).outward

/-- `nameReferent root lambdas name` is the innermost of the given parameters that has a name. -/
def nameReferent (root : Parameter) (lambdas : List Parameter) (name : Option String) : Referent :=
  namedReferent root.name (lambdas.map (·.name)) name

/-- A parameter is found by name when it is the innermost one of that name. -/
theorem findParameter_eq_ok {root p : Parameter} {lambdas : List Parameter}
    {name : Option String} :
    findParameter (lambdas ++ [root]) name = .ok p ↔
      (nameReferent root lambdas name).binder? root lambdas = some p := by
  have hfind : ((lambdas ++ [root]).find? fun p => p.name == name) =
      (nameReferent root lambdas name).binder? root lambdas := by
    induction lambdas with
    | nil =>
        by_cases hname : root.name = name
        · simp [nameReferent, namedReferent, hname, Referent.binder?]
        · simp [nameReferent, namedReferent, hname, Referent.binder?]
    | cons binder lambdas ih =>
        rw [nameReferent, List.map_cons, namedReferent, List.cons_append, List.find?_cons]
        by_cases hname : binder.name = name
        · simp [hname, Referent.binder?]
        · rw [if_neg hname, Referent.binder_outward, beq_false_of_ne hname]
          exact ih
  rw [findParameter, hfind]
  cases (nameReferent root lambdas name).binder? root lambdas with
  | none => simp
  | some found => simp

/-! ## Constants of a document -/

end Document

namespace Node

mutual
/-- `node.constants` are the constants in a node, each with the text of its type. -/
def constants : Node → List (Json × Option String)
  | .parameter _ => []
  | .member target _ => target.constants
  | .constant json text => [(json, text)]
  | .binary _ left right => left.constants ++ right.constants
  | .unary _ operand => operand.constants
  | .call _ receiver arguments => receiver.constants ++ constantsOfArguments arguments
  | .conditional test ifTrue ifFalse => test.constants ++ (ifTrue.constants ++ ifFalse.constants)
  | .lambda _ _ body => body.constants
  | .init _ bindings => constantsOfBindings bindings

/-- `constantsOfArguments nodes` are the constants in nodes. -/
def constantsOfArguments : List Node → List (Json × Option String)
  | [] => []
  | node :: rest => node.constants ++ constantsOfArguments rest

/-- `constantsOfBindings bindings` are the constants in bound nodes. -/
def constantsOfBindings : List (String × Node) → List (Json × Option String)
  | [] => []
  | (_, node) :: rest => node.constants ++ constantsOfBindings rest
end

/-- The constants of arguments are those of each of them. -/
theorem constantsOfArguments_eq (nodes : List Node) :
    constantsOfArguments nodes = nodes.flatMap constants := by
  induction nodes with
  | nil => rfl
  | cons node rest ih => rw [constantsOfArguments, ih, List.flatMap_cons]

theorem constantsOfBindings_eq (bindings : List (String × Node)) :
    constantsOfBindings bindings = bindings.flatMap fun b => b.2.constants := by
  induction bindings with
  | nil => rfl
  | cons b rest ih => rw [constantsOfBindings, ih, List.flatMap_cons]

end Node

namespace Document

/-! ## The expression that a node stands for -/

/-- `Represents registry root lambdas node e` says that `node` stands for `e` in a predicate over
`root`, inside lambdas over the given parameters, the innermost first. -/
inductive Represents (registry : Registry) (root : Parameter) :
    List Parameter → Node → Expr → Prop where
  | parameter {lambdas name p} :
      (nameReferent root lambdas name).binder? root lambdas = some p →
      referent root lambdas p = nameReferent root lambdas name →
      Represents registry root lambdas (.parameter name) (.parameter p)
  | member {lambdas target target' name shape field} :
      Represents registry root lambdas target target' → target'.shape? = some shape →
      registry.member? shape name = some field →
      Represents registry root lambdas (.member target name) (.member target' field)
  | constant {lambdas json text value type} :
      bindConstant json text = .ok (.constant value type) →
      Represents registry root lambdas (.constant json text) (.constant value type)
  | binary {lambdas op left left' right right'} :
      Represents registry root lambdas left left' → Represents registry root lambdas right right' →
      Represents registry root lambdas (.binary op left right) (.binary op left' right')
  | unary {lambdas op operand operand'} :
      Represents registry root lambdas operand operand' →
      Represents registry root lambdas (.unary op operand) (.unary op operand')
  | call {lambdas method receiver receiver' arguments arguments'} :
      Represents registry root lambdas receiver receiver' →
      arguments.length = arguments'.length →
      (∀ node e, (node, e) ∈ arguments.zip arguments' → Represents registry root lambdas node e) →
      Represents registry root lambdas (.call method receiver arguments)
        (.call method receiver' arguments')
  | conditional {lambdas test test' ifTrue ifTrue' ifFalse ifFalse'} :
      Represents registry root lambdas test test' →
      Represents registry root lambdas ifTrue ifTrue' →
      Represents registry root lambdas ifFalse ifFalse' →
      Represents registry root lambdas (.conditional test ifTrue ifFalse)
        (.conditional test' ifTrue' ifFalse')
  | lambda {lambdas text body p body'} :
      readType text = .ok p.type → Represents registry root (p :: lambdas) body body' →
      Represents registry root lambdas (.lambda p.name text body) (.lambda p body')
  | init {lambdas shape bindings bindings'} :
      bindings.map Prod.fst = bindings'.map Prod.fst →
      (∀ b b', (b, b') ∈ bindings.zip bindings' →
        Represents registry root lambdas b.2 b'.2) →
      Represents registry root lambdas (.init shape bindings) (.init shape bindings')

section

variable {registry : Registry} {root : Parameter} {lambdas : List Parameter} {node : Node}
  {e : Expr}

/-- Apart from references and lambdas, the direct parts of an expression that a document stands for
are stood for inside the same lambdas, by nodes with some of its constants. -/
theorem Represents.parts (h : Represents registry root lambdas node e) (hown : e.own? = none) :
    ∀ part ∈ e.children, ∃ node', Represents registry root lambdas node' part ∧
      node'.constants ⊆ node.constants := by
  cases h with
  | parameter => cases hown
  | member htarget => exact List.forall_mem_singleton.2 ⟨_, htarget, fun _ h => h⟩
  | constant => simp [Expr.children]
  | binary hleft hright =>
      exact List.forall_mem_cons.2 ⟨⟨_, hleft, List.subset_append_left _ _⟩,
        List.forall_mem_singleton.2 ⟨_, hright, List.subset_append_right _ _⟩⟩
  | unary hoperand => exact List.forall_mem_singleton.2 ⟨_, hoperand, fun _ h => h⟩
  | call hreceiver hlength harguments =>
      refine List.forall_mem_cons.2
        ⟨⟨_, hreceiver, List.subset_append_left _ _⟩, fun part hpart => ?_⟩
      obtain ⟨node, hmem⟩ := exists_mem_zip hlength hpart
      refine ⟨node, harguments node part hmem, fun c hc => List.mem_append_right _ ?_⟩
      rw [Node.constantsOfArguments_eq]
      exact List.mem_flatMap.2 ⟨node, (List.of_mem_zip hmem).1, hc⟩
  | conditional htest htrue hfalse =>
      exact List.forall_mem_cons.2 ⟨⟨_, htest, List.subset_append_left _ _⟩,
        List.forall_mem_cons.2
          ⟨⟨_, htrue, fun _ h => List.mem_append_right _ (List.mem_append_left _ h)⟩,
        List.forall_mem_singleton.2
          ⟨_, hfalse, fun _ h => List.mem_append_right _ (List.mem_append_right _ h)⟩⟩⟩
  | lambda => cases hown
  | init hnames hbindings =>
      intro part hpart
      obtain ⟨b', hb', rfl⟩ := List.mem_map.1 hpart
      obtain ⟨b, hmem⟩ := exists_binding_mem_zip hnames hb'
      refine ⟨_, hbindings b b' hmem, fun c hc => ?_⟩
      rw [Node.constants, Node.constantsOfBindings_eq]
      exact List.mem_flatMap.2 ⟨b, (List.of_mem_zip hmem).1, hc⟩

/-- Every node of an expression that a document stands for is stood for inside some lambdas, by a
node with some of the constants. -/
theorem Represents.nodes (h : Represents registry root lambdas node e) :
    ∀ e' ∈ e.nodes, ∃ lambdas' node', Represents registry root lambdas' node' e' ∧
      node'.constants ⊆ node.constants := by
  induction e using Expr.binding_induction generalizing lambdas node with
  | parameter p =>
      exact Expr.forall_nodes_iff.2 ⟨⟨lambdas, node, h, fun _ h => h⟩, by simp [Expr.children]⟩
  | lambda p body ih =>
      refine Expr.forall_nodes_iff.2 ⟨⟨lambdas, node, h, fun _ h => h⟩, ?_⟩
      cases h with
      | lambda _ hbody =>
          have hnodes := ih hbody
          exact List.forall_mem_singleton.2 hnodes
  | parts e hown ih =>
      refine Expr.forall_nodes_iff.2 ⟨⟨lambdas, node, h, fun _ h => h⟩, fun part hpart e' he' => ?_⟩
      obtain ⟨_, hrepresents, hconstants⟩ := h.parts hown part hpart
      obtain ⟨lambdas', node', hnode, hsubset⟩ := ih part hpart hrepresents e' he'
      exact ⟨lambdas', node', hnode, List.Subset.trans hsubset hconstants⟩

/-- What a node stands for refers only to the parameters around, and to each as the innermost with
its identity. -/
theorem Represents.references (h : Represents registry root lambdas node e) :
    e.ScopedIn (lambdas ++ [root]) := by
  induction e using Expr.binding_induction generalizing lambdas node with
  | parameter p =>
      cases h with
      | parameter hbinder hreferent =>
          refine .parameter ?_
          rw [Conversion.find_denotes, hreferent, hbinder]
  | lambda p body ih =>
      cases h with
      | lambda _ hbody => exact .lambda (ih hbody)
  | parts e hown ih =>
      refine .parts hown fun part hpart => ?_
      obtain ⟨_, hrepresents, _⟩ := h.parts hown part hpart
      exact ih part hpart hrepresents

end

/-! ## Binding -/

/-- `Counted scopes next` says that the identities of the parameters in scope go down from the
innermost one, and that `next` is above them all. -/
def Counted (scopes : List Parameter) (next : Nat) : Prop :=
  (next :: scopes.map Parameter.identity).Pairwise fun later earlier => earlier < later

namespace Counted

variable {scopes : List Parameter} {next later : Nat}

/-- Counted parameters came before the next identity. -/
theorem lt (h : Counted scopes next) {p : Parameter} (hp : p ∈ scopes) : p.identity < next :=
  (List.pairwise_cons.1 h).1 _ (List.mem_map_of_mem hp)

/-- Counted parameters have different identities. -/
theorem nodup (h : Counted scopes next) : (scopes.map Parameter.identity).Nodup :=
  (List.pairwise_cons.1 h).2.imp Nat.ne_of_gt

theorem mono (h : Counted scopes next) (hle : next ≤ later) : Counted scopes later := by
  obtain ⟨hnext, hscopes⟩ := List.pairwise_cons.1 h
  exact List.pairwise_cons.2 ⟨fun n hn => Nat.lt_of_lt_of_le (hnext n hn) hle, hscopes⟩

/-- A new parameter becomes the innermost. -/
theorem cons (h : Counted scopes next) (name : Option String) (type : FieldType) :
    Counted (⟨next, name, type⟩ :: scopes) (next + 1) := by
  refine List.pairwise_cons.2 ⟨fun n hn => ?_, h⟩
  rcases List.mem_cons.1 hn with rfl | hn
  · exact Nat.lt_succ_self _
  · exact Nat.lt_succ_of_lt ((List.pairwise_cons.1 h).1 n hn)

end Counted

variable {registry : Registry} {root : Parameter} {lambdas : List Parameter}
  {start finish : Nat} {node : Node} {e : Expr}

/-- A type is read from a document when its text is that of a type. -/
theorem readType_eq_ok {text : String} {type : FieldType} :
    readType text = .ok type ↔ FieldType.read? text = .ok type := by
  rw [readType]
  cases FieldType.read? text <;> simp

/-- A constant is read from a document when its JSON is that of a value of the type. -/
theorem readConstant_eq_ok {type : FieldType} {json : Json} {value : Value} :
    readConstant type json = .ok value ↔ Value.ofJson? type json = .ok value := by
  rw [readConstant]
  cases Value.ofJson? type json <;> simp

/-- A constant with a type is read under it. -/
theorem bindConstant_some {json : Json} {text : String} :
    bindConstant json (some text) = .ok e ↔
      ∃ type value, readType text = .ok type ∧ readConstant type json = .ok value ∧
        e = .constant value type := by
  simp only [bindConstant, except_bind_eq_ok, pure, Except.pure, Except.ok.injEq]
  constructor
  · rintro ⟨type, htype, value, hvalue, rfl⟩
    exact ⟨type, value, htype, hvalue, rfl⟩
  · rintro ⟨type, value, htype, hvalue, rfl⟩
    exact ⟨type, htype, value, hvalue, rfl⟩

/-- A constant without a type has that of its value. -/
theorem bindConstant_none {json : Json} :
    bindConstant json none = .ok e ↔
      ∃ value, readConstant .any json = .ok value ∧ e = .ofValue value := by
  simp only [bindConstant, except_bind_eq_ok, pure, Except.pure, Except.ok.injEq]
  constructor
  · rintro ⟨value, hvalue, rfl⟩
    exact ⟨value, hvalue, rfl⟩
  · rintro ⟨value, hvalue, rfl⟩
    exact ⟨value, hvalue, rfl⟩

/-- A constant of a document is bound to a constant. -/
theorem eq_constant_of_bind {json : Json} {text : Option String}
    (h : bindConstant json text = .ok e) : ∃ value type, e = .constant value type := by
  cases text with
  | none =>
      obtain ⟨value, _, rfl⟩ := bindConstant_none.1 h
      exact ⟨value, _, rfl⟩
  | some text =>
      obtain ⟨type, value, _, _, rfl⟩ := bindConstant_some.1 h
      exact ⟨value, type, rfl⟩

/-- `Bound registry root lambdas start finish node e` says what is true of the expression that a
node was bound to, between two identities. -/
structure Bound (registry : Registry) (root : Parameter) (lambdas : List Parameter)
    (start finish : Nat) (node : Node) (e : Expr) : Prop where
  represents : Represents registry root lambdas node e
  identity : start ≤ finish
  older : e.OlderThan finish

/-- Arguments that are bound one after the other are represented one by one. -/
theorem bound_arguments {nodes : List Node} {es : List Expr}
    (hnodes : ∀ node ∈ nodes, ∀ {start e finish}, Counted (lambdas ++ [root]) start →
      Binds (bindNode registry (lambdas ++ [root]) node) start e finish →
      Bound registry root lambdas start finish node e)
    (hcounted : Counted (lambdas ++ [root]) start)
    (h : Binds (bindArguments registry (lambdas ++ [root]) nodes) start es finish) :
    nodes.length = es.length ∧
      (∀ node e, (node, e) ∈ nodes.zip es → Represents registry root lambdas node e) ∧
      start ≤ finish ∧ ∀ e ∈ es, e.OlderThan finish := by
  induction nodes generalizing start es with
  | nil =>
      obtain ⟨rfl, rfl⟩ := binds_arguments_nil.1 h
      simp
  | cons node rest ih =>
      obtain ⟨e, middle, rest', he, hrest, rfl⟩ := binds_arguments_cons.1 h
      have hfirst := hnodes node List.mem_cons_self hcounted he
      obtain ⟨hlength, hrepresents, hidentity, holder⟩ :=
        ih (fun node hnode => hnodes node (List.mem_cons_of_mem _ hnode))
          (hcounted.mono hfirst.identity) hrest
      refine ⟨by simp [hlength], fun node' e' hmem => ?_,
        Nat.le_trans hfirst.identity hidentity, fun e' he' => ?_⟩
      · rcases List.mem_cons.1 hmem with heq | hmem
        · cases heq
          exact hfirst.represents
        · exact hrepresents node' e' hmem
      · rcases List.mem_cons.1 he' with rfl | he'
        · exact hfirst.older.mono hidentity
        · exact holder e' he'

theorem bound_bindings {bindings : List (String × Node)} {bindings' : List (String × Expr)}
    (hnodes : ∀ b ∈ bindings, ∀ {start e finish}, Counted (lambdas ++ [root]) start →
      Binds (bindNode registry (lambdas ++ [root]) b.2) start e finish →
      Bound registry root lambdas start finish b.2 e)
    (hcounted : Counted (lambdas ++ [root]) start)
    (h : Binds (bindBindings registry (lambdas ++ [root]) bindings) start bindings' finish) :
    bindings.map Prod.fst = bindings'.map Prod.fst ∧
      (∀ b b', (b, b') ∈ bindings.zip bindings' → Represents registry root lambdas b.2 b'.2) ∧
      start ≤ finish ∧ ∀ b ∈ bindings', b.2.OlderThan finish := by
  induction bindings generalizing start bindings' with
  | nil =>
      obtain ⟨rfl, rfl⟩ := binds_bindings_nil.1 h
      simp
  | cons binding rest ih =>
      obtain ⟨e, middle, rest', he, hrest, rfl⟩ := binds_bindings_cons.1 h
      have hfirst := hnodes binding List.mem_cons_self hcounted he
      obtain ⟨hnames, hrepresents, hidentity, holder⟩ :=
        ih (fun b hb => hnodes b (List.mem_cons_of_mem _ hb)) (hcounted.mono hfirst.identity) hrest
      refine ⟨by simp [hnames], fun b b' hmem => ?_,
        Nat.le_trans hfirst.identity hidentity, fun b hb => ?_⟩
      · rcases List.mem_cons.1 hmem with heq | hmem
        · cases heq
          exact hfirst.represents
        · exact hrepresents b b' hmem
      · rcases List.mem_cons.1 hb with rfl | hb
        · exact hfirst.older.mono hidentity
        · exact holder b hb

/-- What a node is bound to is what it stands for. -/
theorem bound_of_binds (hcounted : Counted (lambdas ++ [root]) start)
    (h : Binds (bindNode registry (lambdas ++ [root]) node) start e finish) :
    Bound registry root lambdas start finish node e := by
  induction node generalizing lambdas start e finish with
  | parameter name =>
      obtain ⟨p, hp, rfl, rfl⟩ := binds_parameter.1 h
      have hbinder := findParameter_eq_ok.1 hp
      refine ⟨.parameter hbinder (Conversion.referent_of_binder hcounted.nodup hbinder),
        Nat.le_refl _, Expr.olderThan_of_children (by simp [Expr.children]) ?_⟩
      rintro _ ⟨⟩
      exact hcounted.lt (Referent.mem_of_binder hbinder)
  | member target field ih =>
      obtain ⟨target', htarget, haccess⟩ := binds_member.1 h
      have hbound := ih hcounted htarget
      rw [Expr.access] at haccess
      split at haccess
      · cases haccess
      · rename_i shape hshape
        split at haccess
        · rename_i found hfound
          cases haccess
          exact ⟨.member hbound.represents hshape hfound, hbound.identity,
            Expr.olderThan_of_children (by simpa [Expr.children] using hbound.older)
              (by simp [Expr.own?])⟩
        · cases haccess
  | constant json text =>
      obtain ⟨hconstant, rfl⟩ := binds_constant.1 h
      obtain ⟨value, type, rfl⟩ := eq_constant_of_bind hconstant
      exact ⟨.constant hconstant, Nat.le_refl _,
        Expr.olderThan_of_children (by simp [Expr.children]) (by simp [Expr.own?])⟩
  | binary op left right ihleft ihright =>
      obtain ⟨left', middle, right', hleft, hright, rfl⟩ := binds_binary.1 h
      have hleft := ihleft hcounted hleft
      have hright := ihright (hcounted.mono hleft.identity) hright
      exact ⟨.binary hleft.represents hright.represents,
        Nat.le_trans hleft.identity hright.identity,
        Expr.olderThan_of_children
          (by simp [Expr.children, hleft.older.mono hright.identity, hright.older])
          (by simp [Expr.own?])⟩
  | unary op operand ih =>
      obtain ⟨operand', hoperand, rfl⟩ := binds_unary.1 h
      have hoperand := ih hcounted hoperand
      exact ⟨.unary hoperand.represents, hoperand.identity,
        Expr.olderThan_of_children (by simpa [Expr.children] using hoperand.older)
          (by simp [Expr.own?])⟩
  | call method receiver arguments ihreceiver iharguments =>
      obtain ⟨receiver', middle, arguments', hreceiver, harguments, rfl⟩ := binds_call.1 h
      have hreceiver := ihreceiver hcounted hreceiver
      obtain ⟨hlength, hrepresents, hidentity, holder⟩ :=
        bound_arguments (fun node hnode => iharguments node hnode)
          (hcounted.mono hreceiver.identity) harguments
      refine ⟨.call hreceiver.represents hlength hrepresents,
        Nat.le_trans hreceiver.identity hidentity,
        Expr.olderThan_of_children ?_ (by simp [Expr.own?])⟩
      simpa [Expr.children, hreceiver.older.mono hidentity] using holder
  | conditional test ifTrue ifFalse ihtest ihtrue ihfalse =>
      obtain ⟨test', tested, ifTrue', middle, ifFalse', htest, htrue, hfalse, rfl⟩ :=
        binds_conditional.1 h
      have htest := ihtest hcounted htest
      have htested := hcounted.mono htest.identity
      have htrue := ihtrue htested htrue
      have hfalse := ihfalse (htested.mono htrue.identity) hfalse
      have hlast := Nat.le_trans htrue.identity hfalse.identity
      exact ⟨.conditional htest.represents htrue.represents hfalse.represents,
        Nat.le_trans htest.identity hlast,
        Expr.olderThan_of_children
          (by simp [Expr.children, htest.older.mono hlast, htrue.older.mono hfalse.identity,
            hfalse.older])
          (by simp [Expr.own?])⟩
  | lambda name text body ih =>
      obtain ⟨type, body', htype, hbody, rfl⟩ := binds_lambda.1 h
      have hinner : Counted ((⟨start, name, type⟩ :: lambdas) ++ [root]) (start + 1) :=
        hcounted.cons name type
      have hbody := ih hinner hbody
      refine ⟨.lambda htype hbody.represents,
        Nat.le_trans (Nat.le_succ _) hbody.identity,
        Expr.olderThan_of_children (by simpa [Expr.children] using hbody.older) ?_⟩
      rintro _ ⟨⟩
      exact hbody.identity
  | init shape bindings ih =>
      obtain ⟨bindings', hbindings, rfl⟩ := binds_init.1 h
      obtain ⟨hnames, hrepresents, hidentity, holder⟩ :=
        bound_bindings (fun b hb => ih b hb) hcounted hbindings
      refine ⟨.init hnames hrepresents, hidentity,
        Expr.olderThan_of_children (fun part hpart => ?_) (by simp [Expr.own?])⟩
      obtain ⟨b, hb, rfl⟩ := List.mem_map.1 hpart
      exact holder b hb

variable {document : Document} {predicate : Predicate} {identity next : Nat}

/-- Binding a document succeeds when its shape is registered and its body can be bound. The
parameter of the predicate gets the first identity. -/
theorem bind_eq_ok :
    document.bind registry identity = .ok (predicate, next) ↔
      (registry.shape? document.shape).isSome ∧
      predicate.parameter = ⟨identity, document.parameter, .shape document.shape⟩ ∧
      Binds (bindNode registry [predicate.parameter] document.body) (identity + 1) predicate.body
        next := by
  show Binds (document.bindFrom registry) identity predicate next ↔ _
  rw [bindFrom]
  cases hshape : registry.shape? document.shape with
  | none =>
      constructor
      · rintro ⟨⟩
      · rintro ⟨⟨⟩, _⟩
  | some shape =>
      rw [if_neg (by simp)]
      simp only [binds_bind, binds_newParameter, binds_pure]
      constructor
      · rintro ⟨_, _, ⟨rfl, rfl⟩, body, _, hbody, rfl, rfl⟩
        exact ⟨rfl, rfl, hbody⟩
      · rintro ⟨_, hparameter, hbody⟩
        obtain ⟨parameter, body⟩ := predicate
        obtain rfl := hparameter
        exact ⟨_, _, ⟨rfl, rfl⟩, body, _, hbody, rfl, rfl⟩

/-- A document that can be bound stands for the predicate that it is bound to, whose parameters came
before the next identity. -/
theorem bind_represents (h : document.bind registry identity = .ok (predicate, next)) :
    Represents registry predicate.parameter [] document.body predicate.body ∧
      predicate.OlderThan next := by
  obtain ⟨_, hparameter, hbody⟩ := bind_eq_ok.1 h
  have hcounted : Counted ([] ++ [predicate.parameter]) (identity + 1) := by
    rw [hparameter]
    simp [Counted]
  have hbound := bound_of_binds hcounted hbody
  refine ⟨hbound.represents, fun p hp => ?_⟩
  rcases List.mem_cons.1 hp with rfl | hp
  · rw [hparameter]
    exact hbound.identity
  · exact hbound.older p hp

end Document

/-! ## Two documents

In one of them two parameters have the same name, in the other one of them has none. -/

namespace Sample

/-- `document` asks for an order with a note and a part that is fragile or heavy, which goes by the
name of the order. -/
def document : Document where
  parameter := some "o"
  shape := "Order"
  body := .binary .and
    (.binary .notEqual (.member (.parameter (some "o")) "Note") (.constant .null none))
    (.call .any (.member (.parameter (some "o")) "Parts")
      [.lambda (some "o") "Order"
        (.call .contains
          (.constant (.array [.string "fragile", .string "heavy"]) (some "List<String>"))
          [.member (.parameter (some "o")) "Note"])])

/-- `noted` is the parameter of `documented`. -/
def noted : Parameter := ⟨0, some "o", .shape "Order"⟩

/-- `part` is the parameter of the lambda in `documented`. -/
def part : Parameter := ⟨1, some "o", .shape "Order"⟩

/-- `documented` is what `document` is bound to. -/
def documented : Predicate where
  parameter := noted
  body := .binary .and
    (.binary .notEqual (.member (.parameter noted) ⟨"Note", .string, "Order"⟩)
      (.constant .null .any))
    (.call .any (.member (.parameter noted) ⟨"Parts", .list (.shape "Order"), "Order"⟩)
      [.lambda part
        (.call .contains
          (.constant (.list [.string "fragile", .string "heavy"]) (.list .string))
          [.member (.parameter part) ⟨"Note", .string, "Order"⟩])])

theorem readType_order : Document.readType "Order" = .ok (.shape "Order") :=
  Document.readType_eq_ok.2 (@FieldType.read_render (.shape "Order") ⟨by decide, rfl⟩)

theorem bindConstant_list :
    Document.bindConstant (.array [.string "fragile", .string "heavy"]) (some "List<String>") =
      .ok (.constant (.list [.string "fragile", .string "heavy"]) (.list .string)) := by
  have htype : Document.readType "List<String>" = .ok (.list .string) :=
    Document.readType_eq_ok.2 (@FieldType.read_render (.list .string) trivial)
  exact Document.bindConstant_some.2 ⟨_, _, htype, rfl, rfl⟩

open Document in
theorem bind_document : document.bind registry 0 = .ok (documented, 2) := by
  simp only [Document.bind, bindFrom, document, bindNode, bindArguments, readType_order,
    bindConstant_list]
  rfl

/-- `unnamedDocument` asks for a large order with a fragile part, the order having no name. -/
def unnamedDocument : Document where
  parameter := none
  shape := "Order"
  body := .binary .and
    (.binary .greater (.member (.parameter none) "Total") (.constant (.number (.integer 3)) none))
    (.call .any (.member (.parameter none) "Parts")
      [.lambda (some "p") "Order"
        (.binary .equal (.member (.parameter (some "p")) "Note")
          (.constant (.string "fragile") none))])

/-- `unnamed` is what `unnamedDocument` is bound to. -/
def unnamed : Predicate where
  parameter := ⟨0, none, .shape "Order"⟩
  body := .binary .and
    (.binary .greater
      (.member (.parameter ⟨0, none, .shape "Order"⟩) ⟨"Total", .integer, "Order"⟩)
      (.constant (.integer 3) .integer))
    (.call .any
      (.member (.parameter ⟨0, none, .shape "Order"⟩)
        ⟨"Parts", .list (.shape "Order"), "Order"⟩)
      [.lambda ⟨1, some "p", .shape "Order"⟩
        (.binary .equal
          (.member (.parameter ⟨1, some "p", .shape "Order"⟩) ⟨"Note", .string, "Order"⟩)
          (.constant (.string "fragile") .string))])

open Document in
theorem bind_unnamed : unnamedDocument.bind registry 0 = .ok (unnamed, 2) := by
  simp only [Document.bind, bindFrom, unnamedDocument, bindNode, bindArguments, readType_order]
  rfl

end Sample

end Reshape
