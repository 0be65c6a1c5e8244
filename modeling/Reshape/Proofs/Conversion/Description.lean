import Reshape.Proofs.Conversion.Access
import Reshape.Proofs.Document.RoundTrip
import Reshape.Proofs.Expr.Restatement

/-!
# Descriptions of converted predicates

What a bound predicate is converted to, without defaults and without a custom map, can be described
and bound again: `converted_describe_binds`. A description refers to parameters by name, while a
conversion replaces them by identity. Lambdas keep their names, so the names are found as before,
apart from that of the destination parameter. If the source parameter has no name, this one has the
fallback name, which a lambda may have already (`Expr.hides`). A reference inside such a lambda is
bound to the lambda's parameter then, as in `sample_hidden_parameter`.

The types of new parameters are written down as well. They are over the destination, or over a shape
that is mentioned in a converted receiver, and so by a parameter, a field or a constant. Constants
need not be read back as they are, as long as what they are read as is written down alike
(`Converts.represents_restated`).
-/

namespace Reshape

open Document Conversion

/-! ## Types of parameters -/

/-- `registry.knownNames` are the names of the shapes in a registry and of those that their fields
mention. -/
def Registry.knownNames (registry : Registry) : List String :=
  registry.shapes.flatMap fun shape =>
    shape.name :: shape.fields.filterMap fun field => field.type.mentioned?

/-- `registry.NamesRead` says that the names of shapes are read as types of these shapes. -/
def Registry.NamesRead (registry : Registry) : Prop :=
  ∀ name ∈ registry.knownNames, FieldType.read? name = .ok (.shape name)

namespace Registry.NamesRead

variable {registry : Registry}

/-- The name of a registered shape is read as that shape. -/
theorem shape (h : registry.NamesRead) {name : String} (hname : (registry.shape? name).isSome) :
    (FieldType.shape name).Nameable := by
  obtain ⟨shape, hshape⟩ := Option.isSome_iff_exists.1 hname
  have hmem : name ∈ registry.knownNames := by
    refine List.mem_flatMap.2 ⟨shape, List.mem_of_find?_eq_some hshape, ?_⟩
    rw [name_of_shape? hshape]
    exact List.mem_cons_self
  exact FieldType.nameable_of_ofChars (h name hmem)

/-- The type of a field that is found is read from its text. -/
theorem field (h : registry.NamesRead) {shape name : String} {field : FieldDescriptor}
    (hfield : registry.member? shape name = some field) : field.type.Nameable := by
  obtain ⟨found, hfound, _, hmem, _⟩ := mem_of_member? hfield
  refine FieldType.nameable_iff.2 fun mentioned hmentioned => ?_
  have hname : mentioned ∈ registry.knownNames := by
    refine List.mem_flatMap.2 ⟨found, hfound, List.mem_cons_of_mem _ ?_⟩
    exact List.mem_filterMap.2 ⟨field, hmem, hmentioned⟩
  exact FieldType.nameable_of_ofChars (h mentioned hname)

end Registry.NamesRead

namespace Expr

/-- A binary expression over lists has the elements of its left operand. -/
theorem elementShapeName_of_arithmeticType {op : BinaryOp} {left right : FieldType} {name : String}
    (h : (arithmeticType op left right).elementShapeName? = some name) :
    left.elementShapeName? = some name := by
  unfold arithmeticType at h
  split at h
  · split at h <;> exact h
  · exact h
  · split at h
    · cases h
    · split at h
      · cases h
      · exact h

/-- The elements of an expression are those of a path or a constant in it. -/
theorem exists_node_of_element {e : Expr} {name : String}
    (h : e.resultType.elementShapeName? = some name) :
    ∃ node ∈ e.nodes, (node.isPath ∨ node.isConstant) ∧
      node.resultType.elementShapeName? = some name := by
  induction e with
  | parameter p => exact ⟨_, self_mem_nodes _, Or.inl rfl, h⟩
  | member target field => exact ⟨_, self_mem_nodes _, Or.inl rfl, h⟩
  | constant value type => exact ⟨_, self_mem_nodes _, Or.inr rfl, h⟩
  | binary op left right ihleft _ =>
      rw [resultType] at h
      split at h
      · cases h
      · obtain ⟨node, hnode, hrest⟩ := ihleft (elementShapeName_of_arithmeticType h)
        exact ⟨node, mem_nodes_of_child hnode (by simp [children]), hrest⟩
  | unary op operand ih =>
      cases op with
      | not => cases h
      | negate =>
          obtain ⟨node, hnode, hrest⟩ := ih h
          exact ⟨node, mem_nodes_of_child hnode (by simp [children]), hrest⟩
  | call method receiver arguments => cases method <;> cases h
  | conditional test ifTrue ifFalse _ ihtrue _ =>
      obtain ⟨node, hnode, hrest⟩ := ihtrue h
      exact ⟨node, mem_nodes_of_child hnode (by simp [children]), hrest⟩
  | lambda p body ih =>
      obtain ⟨node, hnode, hrest⟩ := ih h
      exact ⟨node, mem_nodes_of_child hnode (by simp [children]), hrest⟩
  | init shape bindings => cases h

end Expr

/-- Constants that are read back have types that are. -/
theorem Expr.ConstantsRead.nameable {e : Expr} (h : e.ConstantsRead) {value : Value}
    {type : FieldType} (hconstant : .constant value type ∈ e.nodes) : type.Nameable := by
  obtain ⟨_, _, htype, _, heq⟩ := bindConstant_some.1 (h value type hconstant).2
  cases heq
  exact FieldType.nameable_of_ofChars (readType_eq_ok.1 htype)

/-- The shape of the elements of an expression is read from its name, when this is so for the types
of its constants and parameters. -/
theorem nameable_of_element {registry : Registry} {e : Expr} (hnames : registry.NamesRead)
    (hresolved : e.Resolved registry)
    (hconstants : ∀ value type, .constant value type ∈ e.nodes → type.Nameable)
    (hparameters : ∀ p ∈ e.parameters, p.type.Nameable) {name : String}
    (hname : e.resultType.elementShapeName? = some name) : (FieldType.shape name).Nameable := by
  obtain ⟨node, hnode, hkind, hname⟩ := Expr.exists_node_of_element hname
  refine FieldType.nameable_iff.1 ?_ name (FieldType.mentioned_of_elementShapeName hname)
  cases node with
  | parameter p => exact hparameters p (List.mem_filterMap.2 ⟨_, hnode, rfl⟩)
  | member target field =>
      obtain ⟨_, _, hfield⟩ := hresolved target field hnode
      exact hnames.field hfield
  | constant value type => exact hconstants value type hnode
  | _ => simp [Expr.isPath, Expr.isConstant] at hkind

namespace Conversion

variable {σ : Type} {task : Task σ} {events : List ConversionEvent} {scopes : Scopes}
  {element : Option String} {next : Nat} {e e' : Expr}

/-- The types of the parameters of a counterpart are read back, when those of the parameters of the
original, those of the constants of the counterpart and the names of shapes are. -/
theorem Converts.nameable_parameters (h : Converts task events scopes element next e e')
    (hnames : task.registry.NamesRead)
    (hdestination : (FieldType.shape task.destination).Nameable)
    (hscoped : Scoped task.source scopes e)
    (hlambdas : ∀ p body, .lambda p body ∈ e.nodes → p.type.Nameable)
    (hconstants : ∀ value type, .constant value type ∈ e'.nodes → type.Nameable)
    (hscopes : ∀ scope ∈ scopes, scope.2.type.Nameable)
    (helement : ∀ name, element = some name → (FieldType.shape name).Nameable) :
    ∀ q ∈ e'.parameters, q.type.Nameable := by
  induction e using Expr.binding_induction generalizing scopes element next e' with
  | parameter p =>
      cases h
      refine Expr.forall_parameters_iff.2 ⟨?_, by simp [Expr.children]⟩
      rintro _ ⟨⟩
      obtain ⟨scope, hscope, _, hreplacement⟩ := hscoped.exists_scope
      rw [hreplacement]
      exact hscopes scope hscope
  | lambda p body ih =>
      have hinner : ∀ p body', .lambda p body' ∈ body.nodes → p.type.Nameable := by
        intro p body' hnode
        exact hlambdas p body' (Expr.mem_nodes_of_child hnode (by simp [Expr.children]))
      cases h with
      | @lambda _ _ _ _ _ q _ _ hq hbody =>
          have htype : q.type.Nameable := by
            cases hq with
            | kept => exact hlambdas p body (Expr.self_mem_nodes _)
            | renewed _ _ htype =>
                rw [htype]
                cases element with
                | none => exact hdestination
                | some name => exact helement name rfl
          refine Expr.forall_parameters_iff.2 ⟨?_, List.forall_mem_singleton.2 ?_⟩
          · rintro _ ⟨⟩
            exact htype
          · exact ih hbody (hscoped.body hq) hinner
              (fun value type hconstant =>
                hconstants value type (Expr.mem_nodes_of_child hconstant (by simp [Expr.children])))
              (List.forall_mem_cons.2 ⟨htype, hscopes⟩) (by simp)
  | parts e hown ih =>
      obtain ⟨hown', hparts⟩ := h.parts hown
      have hconstants' : ∀ part' ∈ e'.children, ∀ value type, .constant value type ∈ part'.nodes →
          type.Nameable := fun part' hpart' value type hconstant =>
        hconstants value type (Expr.mem_nodes_of_child hconstant hpart')
      have hpart : ∀ part ∈ e.children, ∀ part' ∈ e'.children, ∀ element,
          (∀ name, element = some name → (FieldType.shape name).Nameable) →
          Converts task events scopes element next part part' →
          ∀ q ∈ part'.parameters, q.type.Nameable := by
        intro part hpart part' hpart' element helement hconverts
        exact ih part hpart hconverts (hscoped.child hown hpart)
          (fun p body hnode => hlambdas p body (Expr.mem_nodes_of_child hnode hpart))
          (hconstants' part' hpart') hscopes helement
      refine Expr.forall_parameters_iff.2 ⟨by simp [hown'], fun part' hpart' => ?_⟩
      obtain ⟨part, hmem, element, hconverts, hreceiver⟩ := hparts part' hpart'
      refine hpart part hmem part' hpart' element (fun name hname => ?_) hconverts
      -- the element shape is that of another part, which has no element shape around itself
      obtain ⟨receiver, hreceiver, receiver', hreceiver', hreceiverConverts, htype⟩ :=
        hreceiver name hname
      exact nameable_of_element hnames hreceiverConverts.resolved
        (hconstants' receiver' hreceiver')
        (hpart receiver hreceiver receiver' hreceiver' none (by simp) hreceiverConverts) htype

/-- The types of the parameters of a counterpart are read back, when those of the parameters of the
original, the constants of the counterpart and the names of shapes are. -/
theorem Converts.nameable (h : Converts task events scopes element next e e')
    (hnames : task.registry.NamesRead)
    (hdestination : (FieldType.shape task.destination).Nameable)
    (hscoped : Scoped task.source scopes e)
    (hlambdas : ∀ p body, .lambda p body ∈ e.nodes → p.type.Nameable)
    (hconstants : e'.ConstantsRead) (hscopes : ∀ scope ∈ scopes, scope.2.type.Nameable)
    (helement : ∀ name, element = some name → (FieldType.shape name).Nameable) :
    ∀ q ∈ e'.parameters, q.type.Nameable :=
  h.nameable_parameters hnames hdestination hscoped hlambdas
    (fun _ _ hconstant => hconstants.nameable hconstant) hscopes helement

end Conversion

/-! ## Names by which parameters are found -/

namespace Document

variable {root other name : Option String} {names : List (Option String)}

/-- The parameter of the predicate is found by its name when no lambda has that. -/
theorem namedReferent_eq_root :
    namedReferent root names name = .root ↔ root = name ∧ name ∉ names := by
  induction names with
  | nil =>
      by_cases hname : root = name
      · simp [namedReferent, hname]
      · simp [namedReferent, hname]
  | cons binder names ih =>
      have houtward : (namedReferent root names name).outward = .root ↔
          namedReferent root names name = .root := by
        cases namedReferent root names name <;> simp [Referent.outward]
      by_cases hbinder : binder = name
      · simp [namedReferent, hbinder]
      · simp [namedReferent, hbinder, houtward, ih, Ne.symm hbinder]

/-- A lambda is found by name whatever the parameter of the predicate is called. -/
theorem namedReferent_of_lambda {depth : Nat} (h : namedReferent root names name = .lambda depth) :
    namedReferent other names name = .lambda depth := by
  induction names generalizing depth with
  | nil =>
      rw [namedReferent] at h
      split at h <;> cases h
  | cons binder names ih =>
      rw [namedReferent] at h ⊢
      split
      · rename_i hbinder
        rwa [if_pos hbinder] at h
      · rename_i hbinder
        rw [if_neg hbinder] at h
        cases hinner : namedReferent root names name with
        | lambda inner =>
            rw [hinner] at h
            rw [ih hinner]
            exact h
        | root =>
            rw [hinner] at h
            cases h
        | free =>
            rw [hinner] at h
            cases h

end Document

/-- `e.hides name p` says that `e` is a lambda over a parameter of that name with a reference to `p`
inside. -/
def Expr.hides (name : String) (p : Parameter) : Expr → Bool
  | .lambda q body => q.name == some name && body.nodes.any fun node => node.isReferenceTo p
  | _ => false

/-- `predicate.Unhidden` says that references to a parameter without a name are in no lambda of the
fallback name. -/
def Predicate.Unhidden (predicate : Predicate) : Prop :=
  predicate.parameter.name = none →
    ∀ node ∈ predicate.body.nodes, ¬ node.hides fallbackName predicate.parameter

instance (predicate : Predicate) : Decidable predicate.Unhidden :=
  inferInstanceAs (Decidable (_ → _))

namespace Conversion

/-- `Shown original lambdas e` says that references to `original` in `e` are in no lambda of the
fallback name, neither in one of those around nor in one in `e`. -/
structure Shown (original : Parameter) (lambdas : List Parameter) (e : Expr) : Prop where
  around : ∀ p ∈ lambdas, p.name = some fallbackName →
    ∀ node ∈ e.nodes, ¬ node.isReferenceTo original
  inside : ∀ node ∈ e.nodes, ¬ node.hides fallbackName original

namespace Shown

variable {original : Parameter} {lambdas : List Parameter}

/-- What is shown in an expression is shown in its parts. -/
theorem child {e part : Expr} (h : Shown original lambdas e) (hpart : part ∈ e.children) :
    Shown original lambdas part where
  around p hp hname node hnode := h.around p hp hname node (Expr.mem_nodes_of_child hnode hpart)
  inside node hnode := h.inside node (Expr.mem_nodes_of_child hnode hpart)

/-- What is shown in a lambda is shown in its body, with the lambda around. -/
theorem body {p : Parameter} {body : Expr} (h : Shown original lambdas (.lambda p body)) :
    Shown original (p :: lambdas) body := by
  have hbody := h.child (List.mem_singleton_self _)
  refine ⟨List.forall_mem_cons.2 ⟨fun hname node hnode hreference => ?_, hbody.around⟩,
    hbody.inside⟩
  refine h.inside _ (Expr.self_mem_nodes _) ?_
  rw [Expr.hides, hname, beq_self_eq_true, Bool.true_and, List.any_eq_true]
  exact ⟨node, hnode, hreference⟩

end Shown

variable {σ : Type} {task : Task σ} {lambdas : List (Parameter × Parameter)}
  {original p : Parameter}

/-- The parameter that replaces a bound one is found by its name, where that is the fallback name
only if no lambda around hides it. -/
theorem nameReferent_replacement {name : Option String}
    (hroot : task.root.name = some (original.name.getD fallbackName))
    (hnames : ∀ lambda ∈ lambdas, lambda.2.name = lambda.1.name)
    (hshown : original.name = none → Shown original (lambdas.map Prod.fst) (.parameter p))
    (hbinder : (nameReferent original (lambdas.map Prod.fst) name).binder? original
      (lambdas.map Prod.fst) = some p)
    (hreferent : referent original (lambdas.map Prod.fst) p =
      nameReferent original (lambdas.map Prod.fst) name) :
    nameReferent task.root (lambdas.map Prod.snd)
        (task.replacement (lambdas ++ [(original, task.root)]) p).name =
      nameReferent original (lambdas.map Prod.fst) name := by
  have hbound : referent original (lambdas.map Prod.fst) p ≠ .free := by
    rw [hreferent]
    exact Referent.ne_free_of_binder hbinder
  have hreplacement : (referent original (lambdas.map Prod.fst) p).binder? task.root
      (lambdas.map Prod.snd) = some (task.replacement (lambdas ++ [(original, task.root)]) p) :=
    binder_replacement hbound
  have hsame : (lambdas.map Prod.snd).map Parameter.name =
      (lambdas.map Prod.fst).map Parameter.name := by
    rw [List.map_map, List.map_map]
    exact List.map_congr_left hnames
  obtain rfl := name_of_binder hbinder
  rw [hreferent] at hreplacement
  generalize task.replacement (lambdas ++ [(original, task.root)]) p = q at hreplacement ⊢
  cases hfound : nameReferent original (lambdas.map Prod.fst) p.name with
  | lambda depth =>
      rw [hfound, Referent.binder?, List.getElem?_map, Option.map_eq_some_iff] at hreplacement
      rw [hfound, Referent.binder?, List.getElem?_map, Option.map_eq_some_iff] at hbinder
      obtain ⟨lambda, hlambda, rfl⟩ := hreplacement
      obtain ⟨_, hlambda', rfl⟩ := hbinder
      obtain rfl := Option.some.inj (hlambda.symm.trans hlambda')
      rw [nameReferent, hsame, hnames _ (List.mem_of_getElem? hlambda)]
      exact namedReferent_of_lambda hfound
  | root =>
      rw [hfound] at hreplacement hbinder
      obtain rfl := Option.some.inj hreplacement
      obtain rfl := Option.some.inj hbinder
      have hapart := (namedReferent_eq_root.1 hfound).2
      rw [nameReferent, hsame]
      refine namedReferent_eq_root.2 ⟨rfl, ?_⟩
      rw [hroot]
      cases hname : original.name with
      | some name =>
          rw [hname] at hapart
          exact hapart
      | none =>
          intro hmem
          obtain ⟨lambda, hlambda, hfallback⟩ := List.mem_map.1 hmem
          exact (hshown hname).around lambda hlambda hfallback _ (Expr.self_mem_nodes _)
            original.denotes_self
  | free =>
      rw [hfound] at hbinder
      cases hbinder

end Conversion

/-! ## The nodes that describe counterparts -/

/-- Restated constants leave accesses as they are. -/
theorem Expr.Resolved.restated {restate : Value → Value} {e : Expr} {registry : Registry}
    (h : e.Resolved registry) : (e.restated restate).Resolved registry := by
  intro target field hnode
  rw [Expr.nodes_restated, List.mem_map] at hnode
  obtain ⟨node, hnode, heq⟩ := hnode
  cases node with
  | member original field' =>
      cases heq
      rw [Expr.shape?, Expr.resultType_restated, ← Expr.shape?]
      exact h original field hnode
  | _ => cases heq

namespace Document

variable {registry : Registry} {root : Parameter} {lambdas : List Parameter} {e : Expr}

/-- Apart from references and lambdas, a description stands for its expression when those of the
direct parts do, fields are found and constants are read back. -/
theorem Represents.ofExpr (hown : e.own? = none)
    (hparts : ∀ part ∈ e.children, Represents registry root lambdas (Node.ofExpr part) part)
    (hresolved : e.Resolved registry) (hconstants : e.ConstantsRead) :
    Represents registry root lambdas (Node.ofExpr e) e := by
  cases e with
  | parameter => cases hown
  | member target field =>
      obtain ⟨shape, hshape, hfield⟩ := hresolved target field (Expr.self_mem_nodes _)
      exact .member (hparts target (by simp [Expr.children])) hshape hfield
  | constant value type => exact .constant (hconstants value type (Expr.self_mem_nodes _)).2
  | binary op left right =>
      exact .binary (hparts left (by simp [Expr.children])) (hparts right (by simp [Expr.children]))
  | unary op operand => exact .unary (hparts operand (by simp [Expr.children]))
  | call method receiver arguments =>
      rw [Node.ofExpr, ofArguments_eq_map]
      refine .call (hparts receiver (by simp [Expr.children])) (List.length_map _)
        fun node e hmem => ?_
      rw [← List.map_prod_right_eq_zip, List.mem_map] at hmem
      obtain ⟨_, hargument, heq⟩ := hmem
      cases heq
      exact hparts e (by simp [Expr.children, hargument])
  | conditional test ifTrue ifFalse =>
      exact .conditional (hparts test (by simp [Expr.children]))
        (hparts ifTrue (by simp [Expr.children])) (hparts ifFalse (by simp [Expr.children]))
  | lambda => cases hown
  | init shape bindings =>
      rw [Node.ofExpr, ofBindings_eq_map]
      refine .init (by simp) fun b b' hmem => ?_
      rw [← List.map_prod_right_eq_zip, List.mem_map] at hmem
      obtain ⟨_, hbinding, heq⟩ := hmem
      cases heq
      exact hparts b'.2 (List.mem_map_of_mem hbinding)

end Document

namespace Conversion

variable {σ : Type} {task : Task σ} {lambdas : List (Parameter × Parameter)}
  {original : Parameter}

/-- What describes a counterpart with restated constants stands for it, when these constants and
types are read back and no reference is hidden by the fallback name. -/
theorem Converts.represents_restated {restate : Value → Value} {registry : Registry} {node : Node}
    {events : List ConversionEvent} {scopes : Scopes} {element : Option String} {next : Nat}
    {e e' : Expr}
    (h : Converts task events scopes element next e e')
    (hscopes : scopes = lambdas ++ [(original, task.root)])
    (holder : e.OlderThan task.root.identity) (hlayered : Layered task.root lambdas next)
    (hrepresents : Represents registry original (lambdas.map Prod.fst) node e)
    (hroot : task.root.name = some (original.name.getD fallbackName))
    (hnames : ∀ lambda ∈ lambdas, lambda.2.name = lambda.1.name)
    (hshown : original.name = none → Shown original (lambdas.map Prod.fst) e)
    (hconstants : (e'.restated restate).ConstantsRead)
    (htypes : ∀ q ∈ e'.parameters, q.type.Nameable) :
    Represents task.registry task.root (lambdas.map Prod.snd)
      (Node.ofExpr (e'.restated restate)) (e'.restated restate) := by
  induction e using Expr.binding_induction generalizing lambdas scopes element next node e' with
  | parameter p =>
      subst hscopes
      cases h
      cases hrepresents with
      | parameter hbinder hreferent =>
          have hbound : referent original (lambdas.map Prod.fst) p ≠ .free := by
            rw [hreferent]
            exact Referent.ne_free_of_binder hbinder
          have hname := nameReferent_replacement hroot hnames hshown hbinder hreferent
          refine .parameter ?_ ?_
          · rw [hname, ← hreferent]
            exact binder_replacement hbound
          · rw [hname, ← hreferent]
            exact hlayered.referent_replacement (holder.own rfl) hbound
  | lambda p body ih =>
      subst hscopes
      have hbody : body.OlderThan task.root.identity := holder.child (by simp [Expr.children])
      obtain ⟨hown, hinner⟩ := Expr.forall_parameters_iff.1 htypes
      cases hrepresents with
      | lambda _ hnode =>
          cases h with
          | @lambda _ _ _ _ _ q _ _ hq hconverts =>
              refine .lambda (readType_eq_ok.2 (FieldType.read_render (hown q rfl))) ?_
              exact ih hconverts (List.cons_append ..).symm hbody
                (hlayered.inside (holder.own rfl) hq) hnode
                (List.forall_mem_cons.2 ⟨hq.name_eq, hnames⟩) (fun hname => (hshown hname).body)
                (hconstants.child (by simp [Expr.restated, Expr.children]))
                (hinner _ (by simp [Expr.children]))
  | parts e hown ih =>
      obtain ⟨hown', hparts⟩ := h.parts hown
      have hrestated := (Expr.own_restated restate e').trans hown'
      refine Represents.ofExpr hrestated (fun part hmem => ?_) (Expr.Resolved.restated h.resolved)
        hconstants
      -- the direct parts are restated parts of the counterpart
      obtain ⟨part', hpart', rfl⟩ := List.mem_map.1 (Expr.children_restated restate e' ▸ hmem)
      obtain ⟨part, hpart, _, hconverts, _⟩ := hparts part' hpart'
      obtain ⟨_, hnode, _⟩ := hrepresents.parts hown part hpart
      exact ih part hpart hconverts hscopes (holder.child hpart) hlayered hnode hnames
        (fun hname => (hshown hname).child hpart) (hconstants.child hmem)
        ((Expr.forall_parameters_iff.1 htypes).2 part' hpart')

/-- What describes a counterpart stands for it, when constants and types are read back and no
reference is hidden by the fallback name. -/
theorem Converts.represents {registry : Registry} {node : Node} {events : List ConversionEvent}
    {scopes : Scopes} {element : Option String} {next : Nat} {e e' : Expr}
    (h : Converts task events scopes element next e e')
    (hscopes : scopes = lambdas ++ [(original, task.root)])
    (holder : e.OlderThan task.root.identity) (hlayered : Layered task.root lambdas next)
    (hrepresents : Represents registry original (lambdas.map Prod.fst) node e)
    (hroot : task.root.name = some (original.name.getD fallbackName))
    (hnames : ∀ lambda ∈ lambdas, lambda.2.name = lambda.1.name)
    (hshown : original.name = none → Shown original (lambdas.map Prod.fst) e)
    (hconstants : e'.ConstantsRead) (htypes : ∀ q ∈ e'.parameters, q.type.Nameable) :
    Represents task.registry task.root (lambdas.map Prod.snd) (Node.ofExpr e') e' := by
  have hrestated : (e'.restated id).ConstantsRead := by
    rwa [Expr.restated_id]
  have hdescribes := h.represents_restated hscopes holder hlayered hrepresents hroot hnames hshown
    hrestated htypes
  rwa [Expr.restated_id] at hdescribes

end Conversion

/-- The document that describes what a bound predicate was converted to, without defaults and
without a custom map, can be bound. This gives the same predicate, up to identities, in which
references have the same binders, and which is described alike. The constants of the first document
are to be plain, the names of shapes are to be read as their types, and if the parameter has no
name, no lambda of the fallback name is to contain references to it. -/
theorem converted_describe_binds {registry : Registry} {document : Document} {identity next : Nat}
    {predicate converted : Predicate} (hnames : registry.NamesRead) (hplain : document.body.Plain)
    (hbind : document.bind registry identity = .ok (predicate, next)) {options : Options}
    {clock : Clock} {scope nextIdentity : Nat} {destination : String} {cache : Cache}
    {final : State Cache} (hnext : next ≤ nextIdentity) (hmap : options.customMap = none)
    (hthrow : options.errorHandling = .throw)
    (hconvert : predicate.convert registry options clock scope destination nextIdentity cache =
      (.ok converted, final)) (hunhidden : predicate.Unhidden) (identity' : Nat) :
    ∃ predicate' next', converted.describe.bind registry identity' = .ok (predicate', next') ∧
      converted.same predicate' ∧
      SameBinding converted.parameter predicate'.parameter [] converted.body predicate'.body ∧
      predicate'.describe = converted.describe := by
  obtain ⟨hrepresents, holder⟩ := bind_represents hbind
  have holder : predicate.body.OlderThan nextIdentity :=
    fun p hp => Nat.lt_of_lt_of_le (holder p (List.mem_cons_of_mem _ hp)) hnext
  have hthrows : options.errorHandling ≠ .returnDefault := by
    rw [hthrow]
    simp
  obtain ⟨source, hsource, hroot, hconverts⟩ := convert_converts hmap hconvert
  have hregistered : (registry.shape? destination).isSome := by
    obtain ⟨_, _, _, hshapes, _⟩ := yields_run hconvert
    exact (shapes_eq_ok hshapes).2.2
  have hdestination := hnames.shape hregistered
  -- constants are those of the first document, and types come from it, the registry or the names
  have hconstants : converted.body.ConstantsRead := fun value type hconstant =>
    hrepresents.constantsRead hplain value type (hconverts.constant_mem hthrows hconstant)
  have hlambdas : ∀ p body, .lambda p body ∈ predicate.body.nodes → p.type.Nameable := by
    intro p body hnode
    obtain ⟨_, _, hlambda, _⟩ := hrepresents.nodes _ hnode
    cases hlambda with
    | lambda htype => exact FieldType.nameable_of_ofChars (readType_eq_ok.1 htype)
  have hscoped : Scoped source [(predicate.parameter, converted.parameter)] predicate.body :=
    ⟨hrepresents.references, List.forall_mem_singleton.2 fun hother => absurd hsource hother⟩
  have htypes : ∀ q ∈ converted.body.parameters, q.type.Nameable := by
    refine hconverts.nameable hnames hdestination hscoped hlambdas hconstants
      (List.forall_mem_singleton.2 ?_) (by simp)
    rw [hroot]
    exact hdestination
  have hdescribes : Represents registry converted.parameter [] (Node.ofExpr converted.body)
      converted.body := by
    rw [hroot] at hconverts ⊢
    have hlayered : Layered (rootParameter predicate destination nextIdentity) []
        (nextIdentity + 1) := .nil _ (Nat.lt_succ_self _)
    exact hconverts.represents rfl holder hlayered hrepresents rfl (by simp)
      (fun hname => ⟨by simp, hunhidden hname⟩) hconstants htypes
  have htype : converted.parameter.type = .shape destination := by
    rw [hroot]
    rfl
  exact hdescribes.describe_binds hconstants htype hregistered identity'

/-! ## Orders without a name -/

namespace Sample

/-- All types of the sample shapes are read from their texts. -/
theorem registry_namesRead : registry.NamesRead := by
  intro name hname
  have hcases : name = "Order" ∨ name = "Item" ∨ name = "View" := by
    have hnames : registry.knownNames =
        ["Order", "Item", "Order", "View", "Item", "Item", "Item"] := rfl
    rw [hnames] at hname
    simp only [List.mem_cons, List.not_mem_nil, or_false] at hname
    tauto
  rcases hcases with rfl | rfl | rfl
  · exact @FieldType.read_render (.shape "Order") ⟨by decide, rfl⟩
  · exact @FieldType.read_render (.shape "Item") ⟨by decide, rfl⟩
  · exact @FieldType.read_render (.shape "View") ⟨by decide, rfl⟩

theorem unnamedDocument_plain : unnamedDocument.body.Plain := by
  have hconstants : unnamedDocument.body.constants =
      [(.number (.integer 3), none), (.string "fragile", none)] := rfl
  rw [Node.Plain, hconstants, List.forall_mem_cons, List.forall_mem_singleton]
  exact ⟨rfl, rfl⟩

end Sample

/-- Orders without a name are converted to views by the fallback name, which the lambda has as well.
As this asks for its own parameter alone, the views are found by the name again. -/
theorem sample_converted_describe :
    Sample.unnamedConversion.1 = .ok Sample.unnamedView ∧
      ∃ predicate next,
        Sample.unnamedView.describe.bind Sample.registry 7 = .ok (predicate, next) ∧
        Sample.unnamedView.same predicate ∧
        SameBinding Sample.unnamedView.parameter predicate.parameter [] Sample.unnamedView.body
          predicate.body ∧
        predicate.describe = Sample.unnamedView.describe :=
  ⟨rfl, converted_describe_binds Sample.registry_namesRead Sample.unnamedDocument_plain
    Sample.bind_unnamed (Nat.le_refl 2) rfl rfl Sample.unnamedConversion_eq (by decide) 7⟩

namespace Sample

/-- `hiddenDocument` asks for a large order with any part, the order having no name. The lambda over
the parts has the fallback name. -/
def hiddenDocument : Document where
  parameter := none
  shape := "Order"
  body := .call .any (.member (.parameter none) "Parts")
    [.lambda (some "p") "Order"
      (.binary .greater (.member (.parameter none) "Total")
        (.constant (.number (.integer 3)) none))]

/-- `hidden` is what `hiddenDocument` is bound to. -/
def hidden : Predicate where
  parameter := ⟨0, none, .shape "Order"⟩
  body := .call .any
    (.member (.parameter ⟨0, none, .shape "Order"⟩) ⟨"Parts", .list (.shape "Order"), "Order"⟩)
    [.lambda ⟨1, some "p", .shape "Order"⟩
      (.binary .greater
        (.member (.parameter ⟨0, none, .shape "Order"⟩) ⟨"Total", .integer, "Order"⟩)
        (.constant (.integer 3) .integer))]

open Document in
theorem bind_hidden : hiddenDocument.bind registry 0 = .ok (hidden, 2) := by
  simp only [Document.bind, bindFrom, hiddenDocument, bindNode, bindArguments, readType_order]
  rfl

theorem hiddenDocument_plain : hiddenDocument.body.Plain := by
  have hconstants : hiddenDocument.body.constants = [(.number (.integer 3), none)] := rfl
  rw [Node.Plain, hconstants, List.forall_mem_singleton]
  rfl

/-- `hiddenView` is the counterpart of `hidden` over views. Its parameter and that of its lambda
have the same name. -/
def hiddenView : Predicate where
  parameter := ⟨2, some "p", .shape "View"⟩
  body := .call .any
    (.member (.parameter ⟨2, some "p", .shape "View"⟩) ⟨"Parts", .list (.shape "Item"), "View"⟩)
    [.lambda ⟨3, some "p", .shape "Item"⟩
      (.binary .greater
        (.member (.parameter ⟨2, some "p", .shape "View"⟩) ⟨"Amount", .integer, "View"⟩)
        (.constant (.integer 3) .integer))]

open Document in
theorem bind_hiddenView : hiddenView.describe.bind registry 0 =
    .error (Registry.fieldNotFound "Item" "Amount") := by
  have hitem : readType (FieldType.shape "Item").render = .ok (.shape "Item") := readType_item
  simp only [Document.bind, bindFrom, Predicate.describe, hiddenView, Node.ofExpr,
    Node.ofArguments, bindNode, bindArguments, hitem]
  rfl

end Sample

/-- The description of `hiddenView` cannot be bound: inside the lambda the name of the view is found
to be that of an item, which has no amount. -/
theorem sample_hidden_parameter :
    Sample.registry.NamesRead ∧
      Sample.hiddenDocument.body.Plain ∧
      Sample.hiddenDocument.bind Sample.registry 0 = .ok (Sample.hidden, 2) ∧
      ¬ Sample.hidden.Unhidden ∧
      (Sample.hidden.convert Sample.registry .default id 0 "View" 2 (.empty .unbounded)).1 =
        .ok Sample.hiddenView ∧
      Sample.hiddenView.describe.bind Sample.registry 0 =
        .error (Registry.fieldNotFound "Item" "Amount") :=
  ⟨Sample.registry_namesRead, Sample.hiddenDocument_plain, Sample.bind_hidden, by decide, rfl,
    Sample.bind_hiddenView⟩

end Reshape
