import Mathlib.Data.Set.Insert
import Reshape.Proofs.Conversion.Run
import Reshape.Proofs.FieldType.Element
import Reshape.Proofs.Shape.Registration

/-!
# Isolation from the source shape

A conversion that fails on accesses without counterpart leaves nothing of the source shape behind.
For a set of shape names with the destination in it, closed under the types of fields, a predicate
that apart from the source shape stays in the set is converted into one that stays in it altogether:
`converted_within`. The static types of converted parts carry the induction, as they decide on which
shape a field is looked up and which shape a lambda's parameter gets.
-/

namespace Reshape

/-- `type.MentionsOnly names` says that the shape that `type` mentions at some depth is one of
`names`. -/
def FieldType.MentionsOnly (names : Set String) (type : FieldType) : Prop :=
  ∀ name, type.mentioned? = some name → name ∈ names

namespace FieldType

variable {names : Set String}

/-- The shape that a type names is one that it mentions. -/
theorem MentionsOnly.shapeName {type : FieldType} (h : type.MentionsOnly names) {name : String}
    (hname : type.shapeName? = some name) : name ∈ names :=
  h name (mentioned_of_shapeName hname)

theorem MentionsOnly.elementShapeName {type : FieldType} (h : type.MentionsOnly names)
    {name : String} (hname : type.elementShapeName? = some name) : name ∈ names :=
  h name (mentioned_of_elementShapeName hname)

theorem mentionsOnly_shape {name : String} (h : name ∈ names) :
    (shape name).MentionsOnly names := by
  rintro _ ⟨⟩
  exact h

/-- A type without shapes mentions none. -/
theorem mentionsOnly_of_mentioned_none {type : FieldType} (h : type.mentioned? = none) :
    type.MentionsOnly names := by
  intro name hname
  rw [h] at hname
  cases hname

end FieldType

namespace Expr

variable {names : Set String} {source : String}

/-- The type of a binary expression mentions no shape but those that its operands mention. -/
theorem arithmeticType_mentionsOnly {op : BinaryOp} {left right : FieldType}
    (h : left.MentionsOnly names) : (arithmeticType op left right).MentionsOnly names := by
  unfold arithmeticType
  split
  · split
    · exact h
    · exact h
  · exact h
  · split
    · exact FieldType.mentionsOnly_of_mentioned_none rfl
    · split
      · exact FieldType.mentionsOnly_of_mentioned_none rfl
      · exact h

/-- `e.Within names` says that `e` knows no shapes but `names`: in the types of its nodes and its
parameters, and as the shapes that declare the fields it accesses. -/
structure Within (names : Set String) (e : Expr) : Prop where
  type : ∀ node ∈ e.nodes, node.resultType.MentionsOnly names
  parameter : ∀ p ∈ e.parameters, p.type.MentionsOnly names
  field : ∀ target field, .member target field ∈ e.nodes → field.declaringShape ∈ names

/-- `e.WithinBesides source names` says that `e` introduces no shapes but `names`: in the types of
its constants, as the shapes it initializes, and in the types of those of its parameters that are
not over the source shape. -/
structure WithinBesides (source : String) (names : Set String) (e : Expr) : Prop where
  constant : ∀ value type, .constant value type ∈ e.nodes → type.MentionsOnly names
  init : ∀ shape bindings, .init shape bindings ∈ e.nodes → shape ∈ names
  parameter : ∀ p ∈ e.parameters, p.shape? ≠ some source → p.type.MentionsOnly names

/-- Parts keep to the shapes that the whole keeps to. -/
theorem WithinBesides.child {e part : Expr} (h : e.WithinBesides source names)
    (hpart : part ∈ e.children) : part.WithinBesides source names where
  constant value type hnode := h.constant value type (mem_nodes_of_child hnode hpart)
  init shape bindings hnode := h.init shape bindings (mem_nodes_of_child hnode hpart)
  parameter p hp := h.parameter p (mem_parameters_of_child hp hpart)

/-- An expression knows no shapes but `names` when its parts do not and its root does not. -/
theorem within_of_children {e : Expr} (hparts : ∀ part ∈ e.children, part.Within names)
    (htype : e.resultType.MentionsOnly names)
    (hown : ∀ p, e.own? = some p → p.type.MentionsOnly names)
    (hfield : ∀ target field, e = .member target field → field.declaringShape ∈ names) :
    e.Within names where
  type := forall_nodes_iff.2 ⟨htype, fun part hpart => (hparts part hpart).type⟩
  parameter := forall_parameters_iff.2 ⟨hown, fun part hpart => (hparts part hpart).parameter⟩
  field target field hnode := by
    rw [nodes_eq, List.mem_cons, List.mem_flatMap] at hnode
    rcases hnode with rfl | ⟨part, hpart, hnode⟩
    · exact hfield target field rfl
    · exact (hparts part hpart).field target field hnode

/-- An expression that keeps to some shapes has a type that does. -/
theorem Within.resultType {e : Expr} (h : e.Within names) : e.resultType.MentionsOnly names :=
  h.type e e.self_mem_nodes

end Expr

/-- `registry.ClosedOn names` says that the fields of the registered shapes among `names` mention
no shapes but `names`. -/
def Registry.ClosedOn (registry : Registry) (names : Set String) : Prop :=
  ∀ shape ∈ registry.shapes, shape.name ∈ names → ∀ field ∈ shape.fields,
    field.type.MentionsOnly names

/-- What is found on one of the shapes is declared by it and stays among the shapes. -/
theorem Registry.ClosedOn.member {registry : Registry} {names : Set String}
    (h : registry.ClosedOn names) (hbuilt : registry.Built) {shape name : String}
    {field : FieldDescriptor} (hshape : shape ∈ names)
    (hfield : registry.member? shape name = some field) :
    field.declaringShape ∈ names ∧ field.type.MentionsOnly names := by
  obtain ⟨found, hfound, rfl, hmem, _⟩ := mem_of_member? hfield
  refine ⟨?_, h found hfound hshape field hmem⟩
  rw [hbuilt.declaringShape_eq hfound hmem]
  exact hshape

namespace Conversion

open Reshape.Expr

variable {σ : Type} {task : Task σ} {names : Set String}

/-- A parameter is replaced by one that stays among the shapes. -/
theorem replacement_mentionsOnly {scopes : Scopes} {p : Parameter}
    (hp : p.shape? ≠ some task.source → p.type.MentionsOnly names)
    (hroot : task.root.type.MentionsOnly names)
    (hscopes : ∀ scope ∈ scopes, scope.2.type.MentionsOnly names) :
    (task.replacement scopes p).type.MentionsOnly names := by
  rw [Task.replacement]
  split
  · rename_i scope hscope
    exact hscopes scope (List.mem_of_find?_eq_some hscope)
  · split
    · exact hroot
    · rename_i hother
      exact hp hother

/-- The counterpart of an expression that stays among the shapes besides the source shape stays
among them. -/
theorem counterpart_within (hmap : task.options.customMap = none)
    (hthrow : task.options.errorHandling = .throw) (hbuilt : task.registry.Built)
    (hclosed : task.registry.ClosedOn names) (hdestination : task.destination ∈ names)
    (hroot : task.root.type.MentionsOnly names) {scopes : Scopes}
    (hscopes : ∀ scope ∈ scopes, scope.2.type.MentionsOnly names) {element : Option String}
    (helement : ∀ shape, element = some shape → shape ∈ names) {e e' : Expr}
    (he : e.WithinBesides task.source names) {start finish : State σ}
    (h : Yields (counterpart task scopes element e) start e' finish) : e'.Within names := by
  have hnone : ∀ shape, (none : Option String) = some shape → shape ∈ names := by simp
  induction e generalizing scopes element e' start finish with
  | parameter p =>
      obtain ⟨rfl, rfl⟩ := counterpart_parameter h
      have htype := replacement_mentionsOnly (he.parameter p (mem_parameters_of_own rfl)) hroot
        hscopes
      refine within_of_children (by simp [children]) htype ?_ (by simp)
      rintro _ ⟨⟩
      exact htype
  | member target field ih =>
      obtain ⟨target', asked, name, origin, named, htarget, _, hconclude⟩ :=
        counterpart_member hmap h
      have htarget := ih hscopes hnone (he.child (by simp [children])) htarget
      rcases yields_conclude hconclude with
        ⟨shape, found, hshape, hfound, rfl⟩ | ⟨_, hdefault, _⟩
      · -- the shape on which the field is found is one that the type of the target names
        have hmember := hclosed.member hbuilt (htarget.resultType.shapeName hshape) hfound
        refine within_of_children (by simpa [children] using htarget) hmember.2 (by simp [own?]) ?_
        rintro _ _ ⟨⟩
        exact hmember.1
      · rw [hthrow] at hdefault
        cases hdefault
  | constant value type =>
      obtain ⟨rfl, rfl⟩ := counterpart_constant h
      exact within_of_children (by simp [children])
        (he.constant value type (Expr.self_mem_nodes _)) (by simp [own?]) (by simp)
  | binary op left right ihleft ihright =>
      obtain ⟨left', middle, right', hleft, hright, rfl⟩ := counterpart_binary h
      have hleft := ihleft hscopes hnone (he.child (by simp [children])) hleft
      have hright := ihright hscopes hnone (he.child (by simp [children])) hright
      refine within_of_children (by simp [children, hleft, hright]) ?_ (by simp [own?]) (by simp)
      rw [resultType]
      split
      · exact FieldType.mentionsOnly_of_mentioned_none rfl
      · exact arithmeticType_mentionsOnly hleft.resultType
  | unary op operand ih =>
      obtain ⟨operand', hoperand, rfl⟩ := counterpart_unary h
      have hoperand := ih hscopes hnone (he.child (by simp [children])) hoperand
      refine within_of_children (by simpa [children] using hoperand) ?_ (by simp [own?]) (by simp)
      cases op with
      | not => exact FieldType.mentionsOnly_of_mentioned_none rfl
      | negate => exact hoperand.resultType
  | call method receiver arguments ihreceiver iharguments =>
      obtain ⟨receiver', middle, arguments', _, hreceiver, harguments, rfl⟩ := counterpart_call h
      have hreceiver := ihreceiver hscopes hnone (he.child (by simp [children])) hreceiver
      -- a lambda among the arguments may get the element shape of the converted receiver
      have hpart : ∀ e ∈ arguments', e.Within names := by
        have hforall := argument_counterparts_forall harguments
        intro e' hmem
        obtain ⟨e, hmem, _, _, _, _, hyields⟩ := exists_left_of_forall₂ hforall hmem
        exact iharguments e hmem hscopes (fun shape => hreceiver.resultType.elementShapeName)
          (he.child (by simp [children, hmem])) hyields
      refine within_of_children ?_ ?_ (by simp [own?]) (by simp)
      · simpa [children, hreceiver] using hpart
      · cases method <;> exact FieldType.mentionsOnly_of_mentioned_none rfl
  | conditional test ifTrue ifFalse ihtest ihtrue ihfalse =>
      obtain ⟨test', _, ifTrue', _, ifFalse', htest, htrue, hfalse, rfl⟩ :=
        counterpart_conditional h
      have htest := ihtest hscopes hnone (he.child (by simp [children])) htest
      have htrue := ihtrue hscopes hnone (he.child (by simp [children])) htrue
      have hfalse := ihfalse hscopes hnone (he.child (by simp [children])) hfalse
      exact within_of_children (by simp [children, htest, htrue, hfalse]) htrue.resultType
        (by simp [own?]) (by simp)
  | lambda p body ih =>
      obtain ⟨p', middle, body', hparameter, hbody, rfl⟩ := counterpart_lambda h
      have hp' : p'.type.MentionsOnly names := by
        rcases yields_lambdaParameter hparameter with ⟨_, rfl, _⟩ | ⟨hother, rfl, _⟩
        · cases element with
          | none => exact FieldType.mentionsOnly_shape hdestination
          | some shape => exact FieldType.mentionsOnly_shape (helement shape rfl)
        · exact he.parameter _ (mem_parameters_of_own rfl) hother
      have hinner : ∀ scope ∈ (p, p') :: scopes, scope.2.type.MentionsOnly names := by
        simpa [hp'] using hscopes
      have hbody := ih hinner hnone (he.child (by simp [children])) hbody
      refine within_of_children (by simpa [children] using hbody) hbody.resultType ?_ (by simp)
      rintro _ ⟨⟩
      exact hp'
  | init shape bindings ih =>
      obtain ⟨bindings', hbindings, rfl⟩ := counterpart_init h
      have hpart : ∀ b ∈ bindings', b.2.Within names := by
        have hforall := binding_counterparts_forall hbindings
        intro b' hmem
        obtain ⟨b, hmem, _, _, _, _, _, hyields⟩ := exists_left_of_forall₂ hforall hmem
        exact ih b hmem hscopes hnone (he.child (List.mem_map_of_mem hmem)) hyields
      refine within_of_children ?_ ?_ (by simp [own?]) (by simp)
      · intro part hmem
        obtain ⟨b, hb, rfl⟩ := List.mem_map.1 hmem
        exact hpart b hb
      · exact FieldType.mentionsOnly_shape
          (he.init shape bindings (Expr.self_mem_nodes _))

variable {registry : Registry} {options : Options} {predicate converted : Predicate}
  {source destination : String} {clock : Clock} {scope nextIdentity : Nat} {cache : Cache}
  {finish : State Cache}

/-- A predicate converted without defaults knows no shapes but those that it may know, the source
shape not being among them: not in the types of its parts and parameters, and not as the shape that
declares an accessed field. -/
theorem converted_within (hbuilt : registry.Built) (hclosed : registry.ClosedOn names)
    (hdestination : destination ∈ names) (hsource : source ∉ names)
    (hshape : predicate.shape? = some source) (hbody : predicate.body.WithinBesides source names)
    (hmap : options.customMap = none) (hthrow : options.errorHandling = .throw)
    (hconvert : predicate.convert registry options clock scope destination nextIdentity cache =
      (.ok converted, finish)) :
    converted.body.Within names ∧ converted.parameter.type.MentionsOnly names ∧
      ∀ target field, .member target field ∈ converted.body.nodes →
        field.declaringShape ≠ source := by
  obtain ⟨_, body, middle, hshapes, hyields, rfl, _, _⟩ := yields_run hconvert
  have hroot : (rootParameter predicate destination nextIdentity).type.MentionsOnly names :=
    FieldType.mentionsOnly_shape hdestination
  obtain rfl : source = _ := Option.some.inj (hshape.symm.trans (shapes_eq_ok hshapes).1)
  have hwithin : body.Within names := counterpart_within hmap hthrow hbuilt hclosed hdestination
    hroot (by simpa using hroot) (by simp) hbody hyields
  refine ⟨hwithin, hroot, fun target field hnode heq => ?_⟩
  exact hsource (heq ▸ hwithin.field target field hnode)

/-- Nothing of orders is left in the counterpart over views. The parts of a view are items, so the
lambda over orders becomes one over items. -/
theorem sample_converted_within :
    Sample.conversion.1 = .ok Sample.converted ∧
      Sample.converted.body.Within {"View", "Item"} ∧
      ∀ target field, .member target field ∈ Sample.converted.body.nodes →
        field.declaringShape ≠ "Order" := by
  have hclosed : Sample.registry.ClosedOn {"View", "Item"} := by
    simp [Registry.ClosedOn, Sample.registry, Sample.order, Sample.view, Sample.item,
      ShapeDefinition.shape, FieldType.MentionsOnly, FieldType.mentioned?]
  have hbody : Sample.predicate.body.WithinBesides "Order" {"View", "Item"} := by
    constructor
    · intro value type hnode
      have htype : type = .integer ∨ type = .string := by
        have heither : value = .integer 3 ∧ type = .integer ∨
            value = .string "fragile" ∧ type = .string := by
          simpa [Sample.predicate, nodes, nodesOfArguments] using hnode
        exact heither.imp And.right And.right
      rcases htype with rfl | rfl
      · exact FieldType.mentionsOnly_of_mentioned_none rfl
      · exact FieldType.mentionsOnly_of_mentioned_none rfl
    · simp [Sample.predicate, nodes, nodesOfArguments]
    · simp [Sample.predicate, Sample.parameter, parameters, nodes, nodesOfArguments, own?,
        Parameter.shape?, FieldType.shapeName?]
  have hdestination : "View" ∈ ({"View", "Item"} : Set String) := by simp
  obtain ⟨hwithin, _, hfields⟩ := converted_within Sample.registry_built hclosed hdestination
    (by simp) rfl hbody rfl rfl Sample.conversion_eq
  exact ⟨rfl, hwithin, hfields⟩

end Conversion

end Reshape
