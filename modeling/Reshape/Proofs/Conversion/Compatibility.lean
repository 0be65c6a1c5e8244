import Reshape.Proofs.Conversion.Strict
import Reshape.Proofs.Document.WellFormed

/-!
# Conversions between compatible shapes

When every field that a predicate reads on its parameter has a counterpart of the same type on the
destination shape, the predicate is converted under either error handling, nothing becomes a
default, and all parts but the parameter itself keep their types: `compatible_converts`.

Lookups below the parameter succeed because the types are kept: what a part is carried over to has
the type that the part had, and on the same shape the registry finds the same field.
-/

namespace Reshape

open Conversion

namespace Expr

/-- `e.part? path` is the part of `e` that is reached by going to the direct parts in the places
that `path` tells. -/
def part? (e : Expr) : List Nat → Option Expr
  | [] => some e
  | place :: path => e.children[place]?.bind fun part => part.part? path

/-- `e.AcceptsArguments` says that every method in `e` is called with a number of arguments that it
accepts. -/
def AcceptsArguments (e : Expr) : Prop :=
  ∀ method receiver arguments, .call method receiver arguments ∈ e.nodes →
    method.accepts arguments.length

/-- `e.ReadsOnly p` says that references to `p` in `e` stand as targets of accesses only. -/
structure ReadsOnly (p : Parameter) (e : Expr) : Prop where
  bare : e.isReferenceTo p = false
  target : ∀ node ∈ e.nodes, ∀ part ∈ node.children, part.isReferenceTo p →
    ∃ target field, node = .member target field

/-- Parts are nodes. -/
theorem mem_nodes_of_part? {e part : Expr} {path : List Nat} (h : e.part? path = some part) :
    part ∈ e.nodes := by
  induction path generalizing e with
  | nil =>
      obtain rfl := Option.some.inj h
      exact self_mem_nodes _
  | cons place path ih =>
      obtain ⟨child, hchild, hpart⟩ := Option.bind_eq_some_iff.1 h
      exact mem_nodes_of_child (ih hpart) (List.mem_of_getElem? hchild)

/-- If a field that is read on a parameter is the registry's, it is one of the parameter's shape. -/
theorem Resolved.member?_of_reference {registry : Registry} {source : String} {e target : Expr}
    {field : FieldDescriptor} {p : Parameter} (h : e.Resolved registry)
    (htyped : ∀ q ∈ e.parameters, q.denotes p → q.shape? = some source)
    (hnode : .member target field ∈ e.nodes) (htarget : target.isReferenceTo p) :
    registry.member? source field.name = some field := by
  obtain ⟨shape, hshape, hfield⟩ := h target field hnode
  obtain rfl : source = shape := by
    cases target with
    | parameter q =>
        have hq : q ∈ (Expr.member (.parameter q) field).parameters :=
          mem_parameters_of_child (mem_parameters_of_own (e := .parameter q) rfl)
            (by simp [children])
        exact Option.some.inj
          ((htyped q (mem_parameters_of_node hq hnode) htarget).symm.trans hshape)
    | _ => cases htarget
  exact hfield

end Expr

/-- References to the parameter of a predicate have its shape. -/
theorem Predicate.RangesOver.shape?_of_denotes {source : String} {predicate : Predicate}
    (h : predicate.RangesOver source) (hcoherent : predicate.Coherent) {p : Parameter}
    (hp : p ∈ predicate.body.parameters) (hdenotes : p.denotes predicate.parameter) :
    p.shape? = some source := by
  obtain rfl := hcoherent p (List.mem_cons_of_mem _ hp) _ List.mem_cons_self hdenotes
  exact h.shape?

/-- `FieldsFit registry options destination original e` says that every field which `e` reads
directly on `original` has a counterpart of its type on the destination shape, under the name by
which it is looked up there. -/
def Conversion.FieldsFit (registry : Registry) (options : Options) (destination : String)
    (original : Parameter) (e : Expr) : Prop :=
  ∀ target field, .member target field ∈ e.nodes → target.isReferenceTo original →
    ∃ field', registry.member? destination (directName registry options field).1 = some field' ∧
      field'.type = field.type

namespace Conversion

/-! ## Types of what is carried over -/

/-- `transfer.Fits destination e` says that `e` can be carried over to a parameter of the destination
shape: accesses are to fields of the registry, calls have arguments that are accepted, and the old
parameter only stands as the target of accesses, to fields that have a counterpart of their type. -/
structure Transfer.Fits (transfer : Transfer) (destination : String) (e : Expr) : Prop where
  resolved : e.Resolved transfer.registry
  accepts : e.AcceptsArguments
  readsOnly : e.ReadsOnly transfer.before
  typed : ∀ p ∈ e.parameters, p.denotes transfer.before → p.shape? = some transfer.source
  fields : FieldsFit transfer.registry transfer.options destination transfer.before e

namespace Transfer

variable {transfer : Transfer} {destination : String} {e e' part target : Expr}
  {field : FieldDescriptor}

/-- A node that is not the old parameter itself fits. -/
theorem Fits.of_node (h : transfer.Fits destination e) {node : Expr} (hnode : node ∈ e.nodes)
    (hbare : node.isReferenceTo transfer.before = false) : transfer.Fits destination node where
  resolved target field hpart := h.resolved target field (Expr.mem_nodes_trans hnode hpart)
  accepts method receiver arguments hpart :=
    h.accepts method receiver arguments (Expr.mem_nodes_trans hnode hpart)
  readsOnly := ⟨hbare, fun part hpart => h.readsOnly.target part (Expr.mem_nodes_trans hnode hpart)⟩
  typed p hp := h.typed p (Expr.mem_parameters_of_node hp hnode)
  fields target field hpart := h.fields target field (Expr.mem_nodes_trans hnode hpart)

/-- What fits an expression fits its parts, except for the bare parameter. -/
theorem Fits.of_child (h : transfer.Fits destination e) (hpart : part ∈ e.children)
    (hbare : part.isReferenceTo transfer.before = false) : transfer.Fits destination part :=
  h.of_node (Expr.mem_nodes_of_child part.self_mem_nodes hpart) hbare

/-- The parts of anything but an access fit. -/
theorem Fits.child (h : transfer.Fits destination e) (hpart : part ∈ e.children)
    (hother : ∀ target field, e ≠ .member target field) : transfer.Fits destination part := by
  refine h.of_child hpart ?_
  rw [← Bool.not_eq_true]
  intro hreference
  obtain ⟨target, field, he⟩ := h.readsOnly.target e e.self_mem_nodes part hpart hreference
  exact hother target field he

/-- A field that is read on the old parameter is one of the source shape. -/
theorem Fits.declaringShape_eq (h : transfer.Fits destination (.member target field))
    (hbuilt : transfer.registry.Built) (htarget : target.isReferenceTo transfer.before) :
    field.declaringShape = transfer.source := by
  obtain ⟨found, hmem, hname, hfields, _⟩ := Registry.mem_of_member?
    (h.resolved.member?_of_reference h.typed (Expr.self_mem_nodes _) htarget)
  exact (hbuilt.declaringShape_eq hmem hfields).trans hname

/-- An access on the old parameter is carried over to the counterpart of its field. -/
theorem Fits.carry?_direct (h : transfer.Fits destination (.member target field))
    (hbuilt : transfer.registry.Built) (hafter : transfer.after.shape? = some destination)
    (htarget : target.isReferenceTo transfer.before) :
    ∃ field', transfer.carry? (.member target field) =
        some (.member (.parameter transfer.after) field') ∧ field'.type = field.type := by
  obtain ⟨field', hfound, htype⟩ := h.fields target field (Expr.self_mem_nodes _) htarget
  refine ⟨field', carry?_member.2 ⟨_, field', carry?_reference htarget, ?_, rfl⟩, htype⟩
  rw [field?_direct htarget (h.declaringShape_eq hbuilt htarget), hafter, Option.bind_some, hfound]

/-- An access on a target that keeps its type is carried over to the same field. -/
theorem Fits.carry?_below {target' : Expr} (h : transfer.Fits destination (.member target field))
    (htarget : target.isReferenceTo transfer.before = false)
    (hcarry : transfer.carry? target = some target')
    (htype : target'.resultType = target.resultType) :
    transfer.carry? (.member target field) = some (.member target' field) := by
  obtain ⟨shape, hshape, hfield⟩ := h.resolved target field (Expr.self_mem_nodes _)
  refine carry?_member.2 ⟨target', field, hcarry, ?_, rfl⟩
  have hshape' : target'.shape? = some shape := by rw [Expr.shape?, htype, ← hshape, Expr.shape?]
  rw [field?, name_other htarget, hshape', Option.bind_some, hfield]

/-- What fits is carried over and keeps its type. -/
theorem Fits.carry?_typed (h : transfer.Fits destination e) (hbuilt : transfer.registry.Built)
    (hafter : transfer.after.shape? = some destination) :
    ∃ e', transfer.carry? e = some e' ∧ e'.resultType = e.resultType := by
  induction e with
  | parameter p =>
      have hp : transfer.parameter p = p := if_neg (by rw [Bool.not_eq_true]; exact h.readsOnly.bare)
      exact ⟨_, carry?_parameter.2 rfl, by rw [hp]⟩
  | member target field ih =>
      cases htarget : target.isReferenceTo transfer.before with
      | true =>
          obtain ⟨field', hcarry, htype⟩ := h.carry?_direct hbuilt hafter htarget
          exact ⟨_, hcarry, htype⟩
      | false =>
          obtain ⟨target', hcarry, htype⟩ := ih (h.of_child (by simp [Expr.children]) htarget)
          exact ⟨_, h.carry?_below htarget hcarry htype, rfl⟩
  | constant value type => exact ⟨_, carry?_constant.2 rfl, rfl⟩
  | binary op left right ihleft ihright =>
      obtain ⟨left', hleft, htype⟩ := ihleft (h.child (by simp [Expr.children]) (by simp))
      obtain ⟨right', hright, htype'⟩ := ihright (h.child (by simp [Expr.children]) (by simp))
      refine ⟨_, carry?_binary.2 ⟨left', right', hleft, hright, rfl⟩, ?_⟩
      rw [Expr.resultType, Expr.resultType, htype, htype']
  | unary op operand ih =>
      obtain ⟨operand', hoperand, htype⟩ := ih (h.child (by simp [Expr.children]) (by simp))
      refine ⟨_, carry?_unary.2 ⟨operand', hoperand, rfl⟩, ?_⟩
      cases op with
      | not => rfl
      | negate => exact htype
  | call method receiver arguments ihreceiver iharguments =>
      obtain ⟨receiver', hreceiver, _⟩ :=
        ihreceiver (h.child (by simp [Expr.children]) (by simp))
      obtain ⟨arguments', harguments⟩ : ∃ arguments',
          List.Forall₂ (fun e e' => transfer.carry? e = some e') arguments arguments' := by
        refine exists_forall₂_of_mem fun e he => ?_
        obtain ⟨e', hcarry, _⟩ := iharguments e he (h.child (by simp [Expr.children, he]) (by simp))
        exact ⟨e', hcarry⟩
      have haccepts := h.accepts method receiver arguments (Expr.self_mem_nodes _)
      exact ⟨_, carry?_call.2 ⟨haccepts, receiver', arguments', hreceiver, harguments, rfl⟩, rfl⟩
  | conditional test ifTrue ifFalse ihtest ihtrue ihfalse =>
      obtain ⟨test', htest, _⟩ := ihtest (h.child (by simp [Expr.children]) (by simp))
      obtain ⟨ifTrue', htrue, htype⟩ := ihtrue (h.child (by simp [Expr.children]) (by simp))
      obtain ⟨ifFalse', hfalse, _⟩ := ihfalse (h.child (by simp [Expr.children]) (by simp))
      exact ⟨_, carry?_conditional.2 ⟨test', ifTrue', ifFalse', htest, htrue, hfalse, rfl⟩, htype⟩
  | lambda p body ih =>
      obtain ⟨body', hbody, htype⟩ := ih (h.child (by simp [Expr.children]) (by simp))
      exact ⟨_, carry?_lambda.2 ⟨body', hbody, rfl⟩, htype⟩
  | init shape bindings ih =>
      obtain ⟨bindings', hbindings⟩ : ∃ bindings' : List (String × Expr), List.Forall₂
          (fun b b' => b.1 = b'.1 ∧ transfer.carry? b.2 = some b'.2) bindings bindings' := by
        refine exists_forall₂_of_mem fun b hb => ?_
        obtain ⟨value', hcarry, _⟩ := ih b hb (h.child (List.mem_map_of_mem hb) (by simp))
        exact ⟨(b.1, value'), rfl, hcarry⟩
      exact ⟨_, carry?_init.2 ⟨bindings', hbindings, rfl⟩, rfl⟩

/-- Every node of what fits keeps its type, unless it is the old parameter itself. -/
theorem Fits.node_typed (h : transfer.Fits destination e) (hbuilt : transfer.registry.Built)
    (hafter : transfer.after.shape? = some destination) {node node' : Expr} (hnode : node ∈ e.nodes)
    (hcarry : transfer.carry? node = some node') :
    node'.isReferenceTo transfer.after ∨ node'.resultType = node.resultType := by
  cases hbare : node.isReferenceTo transfer.before with
  | true =>
      obtain rfl := Option.some.inj ((carry?_reference hbare).symm.trans hcarry)
      exact Or.inl (Parameter.denotes_self _)
  | false =>
      obtain ⟨found, hfound, htype⟩ := (h.of_node hnode hbare).carry?_typed hbuilt hafter
      obtain rfl := Option.some.inj (hcarry.symm.trans hfound)
      exact Or.inr htype

/-- The part in a place is carried over to the part in that place. -/
theorem rel_part?_of_carry? (h : transfer.carry? e = some e') (path : List Nat) :
    Option.Rel (fun node node' => transfer.carry? node = some node') (e.part? path)
      (e'.part? path) := by
  induction path generalizing e e' with
  | nil => exact .some h
  | cons place path ih =>
      have hplace := rel_getElem?_of_forall₂ (forall₂_children h) place
      rw [Expr.part?, Expr.part?]
      generalize e.children[place]? = part at hplace ⊢
      generalize e'.children[place]? = part' at hplace ⊢
      cases hplace with
      | none => exact .none
      | some hpart => exact ih hpart

/-- The parts of what fits keep their types in their places, but for the old parameter itself. -/
theorem Fits.rel_part? (h : transfer.Fits destination e) (hbuilt : transfer.registry.Built)
    (hafter : transfer.after.shape? = some destination) (hcarry : transfer.carry? e = some e')
    (path : List Nat) :
    Option.Rel (fun node node' =>
        node'.isReferenceTo transfer.after ∨ node'.resultType = node.resultType)
      (e.part? path) (e'.part? path) := by
  have hparts := rel_part?_of_carry? hcarry path
  have htyped : ∀ node, e.part? path = some node → ∀ node', transfer.carry? node = some node' →
      node'.isReferenceTo transfer.after ∨ node'.resultType = node.resultType :=
    fun node hnode node' => h.node_typed hbuilt hafter (Expr.mem_nodes_of_part? hnode)
  generalize e.part? path = part at hparts htyped ⊢
  generalize e'.part? path = part' at hparts ⊢
  cases hparts with
  | none => exact .none
  | some hpart => exact .some (htyped _ rfl _ hpart)

end Transfer

/-! ## Predicates -/

variable {registry : Registry} {options : Options} {predicate : Predicate}
  {source destination : String} {clock : Clock} {scope nextIdentity : Nat} {cache : Cache}

/-- A predicate that reads its parameter field by field is converted under either error handling,
provided each field that it reads there has a counterpart of its type on the destination shape.
Nothing becomes a default, every part but the parameter itself keeps its type, and a boolean stays
one. -/
theorem compatible_converts (hbuilt : registry.Built) (hranges : predicate.RangesOver source)
    (hcoherent : predicate.Coherent) (holder : predicate.OlderThan nextIdentity)
    (hmap : options.customMap = none) (hcache : cache.AgreesWith (registry.table scope))
    (hsource : (registry.shape? source).isSome)
    (hdestination : (registry.shape? destination).isSome)
    (hreads : predicate.body.ReadsOnly predicate.parameter)
    (hresolved : predicate.body.Resolved registry) (haccepts : predicate.body.AcceptsArguments)
    (hfit : FieldsFit registry options destination predicate.parameter predicate.body) :
    ∃ converted final,
      predicate.convert registry options clock scope destination nextIdentity cache =
        (.ok converted, final) ∧
      final.substitutions = [] ∧
      (∀ path, Option.Rel (fun node node' =>
          node'.isReferenceTo converted.parameter ∨ node'.resultType = node.resultType)
        (predicate.body.part? path) (converted.body.part? path)) ∧
      converted.isBoolean = predicate.isBoolean := by
  let strict : Options := { options with errorHandling := .throw }
  have hstrictMap : strict.customMap = none := hmap
  let transfer := bodyTransfer registry strict predicate source destination nextIdentity
  have hfits : transfer.Fits destination predicate.body :=
    ⟨hresolved, haccepts, hreads, fun _ => hranges.shape?_of_denotes hcoherent, hfit⟩
  obtain ⟨body, hcarry, htype⟩ := hfits.carry?_typed hbuilt rfl
  let converted : Predicate := ⟨rootParameter predicate destination nextIdentity, body⟩
  have hboolean : converted.isBoolean = predicate.isBoolean := by
    rw [Predicate.isBoolean, Predicate.isBoolean]
    exact congrArg FieldType.isBooleanResult htype
  have hstrict : (predicate.convertDirectly registry strict destination nextIdentity).1 =
      .ok converted :=
    (convertDirectly_eq_ok_iff hranges hcoherent holder hstrictMap rfl).2
      ⟨hsource, hdestination, rfl, hcarry, fun hwas => by rw [hboolean, hwas]⟩
  obtain ⟨final, hconvert, hnone⟩ := convert_of_strict hcache hstrict
  exact ⟨converted, final, hconvert, hnone, hfits.rel_part? hbuilt rfl hcarry, hboolean⟩

end Conversion

namespace Sample

theorem large_readsOnly : large.body.ReadsOnly parameter where
  bare := rfl
  target node hnode part hpart hreference := by
    obtain ⟨target, field, he, _⟩ := large_readsFieldsOf.read node hnode part hpart hreference
    exact ⟨target, field, he⟩

theorem large_resolved : large.body.Resolved registry := by
  intro target field hnode
  rcases large_accesses hnode with ⟨rfl, rfl⟩ | ⟨rfl, rfl⟩ | ⟨rfl, rfl⟩
  · exact ⟨"Order", rfl, rfl⟩
  · exact ⟨"Item", rfl, rfl⟩
  · exact ⟨"Order", rfl, rfl⟩

theorem large_acceptsArguments : large.body.AcceptsArguments := by
  intro method receiver arguments hnode
  have hcall : method = .any ∧ arguments.length = 1 := by
    simp only [large, largeOver, Expr.nodes, Expr.nodesOfArguments, List.append_nil, List.cons_append,
      List.nil_append, List.mem_cons, Expr.call.injEq, reduceCtorEq, List.not_mem_nil,
      or_false] at hnode
    obtain ⟨rfl, _, rfl⟩ := hnode
    exact ⟨rfl, rfl⟩
  rw [hcall.1, hcall.2]
  rfl

theorem large_fieldsFit : FieldsFit registry .default "View" parameter large.body := by
  intro target field hnode htarget
  rcases large_accesses hnode with ⟨rfl, rfl⟩ | ⟨rfl, rfl⟩ | ⟨rfl, rfl⟩
  · exact ⟨⟨"Items", .list (.shape "Item"), "View"⟩, rfl, rfl⟩
  · cases htarget
  · exact ⟨⟨"Amount", .integer, "View"⟩, rfl, rfl⟩

end Sample

/-- Views have the items of orders, and an amount of the type of the total, so that orders with a
large item are looked for among views. -/
theorem sample_compatible :
    ∃ final,
      Sample.large.convert Sample.registry .default id 0 "View" 2 (.empty .unbounded) =
        (.ok Sample.largeView, final) ∧
      final.substitutions = [] ∧
      (∀ path, Option.Rel (fun node node' =>
          node'.isReferenceTo Sample.largeView.parameter ∨ node'.resultType = node.resultType)
        (Sample.large.body.part? path) (Sample.largeView.body.part? path)) ∧
      Sample.largeView.isBoolean = Sample.large.isBoolean := by
  obtain ⟨converted, final, hconvert, h⟩ : ∃ converted final,
      Sample.large.convert Sample.registry .default id 0 "View" 2 (.empty .unbounded) =
        (.ok converted, final) ∧ _ :=
    compatible_converts Sample.registry_built Sample.large_readsFieldsOf.rangesOver
      Sample.large_coherent Sample.large_olderThan rfl (Cache.empty_agreesWith .unbounded _) rfl rfl
      Sample.large_readsOnly Sample.large_resolved Sample.large_acceptsArguments
      Sample.large_fieldsFit
  obtain rfl : Sample.largeView = converted := Except.ok.inj (congrArg Prod.fst hconvert)
  exact ⟨final, hconvert, h⟩

end Reshape
