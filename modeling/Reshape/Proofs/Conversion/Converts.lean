import Reshape.Proofs.Conversion.Counterpart

/-!
# Expressions and their counterparts

`Converts` relates an expression to its counterparts, form by form and without the states in
between: which parameter and field take the place of which, what becomes of the parameter of a
lambda, and which accesses have become defaults. Of the states only two things are kept, an identity
from which new parameters are counted, and the events in which substitutions are found. A conversion
without a custom map that succeeds relates the two (`counterpart_converts`), and later proofs go by
induction on the relation.
-/

namespace Reshape.Conversion

variable {σ : Type}

/-- `Replaces task element next p q later` says that `q` takes the place of the parameter `p` of a
lambda, which has identities from `next` on for new parameters, and `later` on inside. Only a
parameter over the source shape gives way to a new one. -/
inductive Replaces (task : Task σ) (element : Option String) (next : Nat) (p : Parameter) :
    Parameter → Nat → Prop where
  | kept : p.shape? ≠ some task.source → Replaces task element next p p next
  | renewed {q : Parameter} :
      p.shape? = some task.source → q.name = p.name →
      q.type = .shape (element.getD task.destination) → next ≤ q.identity →
      Replaces task element next p q (q.identity + 1)

namespace Replaces

variable {task : Task σ} {element : Option String} {next later : Nat} {p q : Parameter}

/-- A replaced parameter keeps its name. -/
theorem name_eq (h : Replaces task element next p q later) : q.name = p.name := by
  cases h with
  | kept => rfl
  | renewed _ hname => exact hname

theorem le (h : Replaces task element next p q later) : next ≤ later := by
  cases h with
  | kept => exact Nat.le_refl next
  | renewed _ _ _ hidentity => exact Nat.le_succ_of_le hidentity

/-- A parameter over another shape is not replaced. -/
theorem eq_of_other (h : Replaces task element next p q later)
    (hother : p.shape? ≠ some task.source) : q = p := by
  cases h with
  | kept => rfl
  | renewed hsource => exact absurd hsource hother

end Replaces

/-- `Converts task events scopes element next e e'` says that `e'` is a counterpart of `e` inside
the given scopes, `element` being the element shape of the receiver when `e` is an argument of a
call. New parameters have identities from `next` on. -/
inductive Converts (task : Task σ) (events : List ConversionEvent) :
    Scopes → Option String → Nat → Expr → Expr → Prop where
  | parameter {scopes element next} (p) :
      Converts task events scopes element next (.parameter p)
        (.parameter (task.replacement scopes p))
  | member {scopes element next target target' field field' name shape} :
      Converts task events scopes none next target target' →
      (task.isDirect scopes target' field = false → name = field.name) →
      target'.shape? = some shape → task.registry.member? shape name = some field' →
      Converts task events scopes element next (.member target field) (.member target' field')
  | default {scopes element next target field name searched} :
      task.options.errorHandling = .returnDefault →
      .substituted ⟨target, field⟩ name searched ∈ events →
      Converts task events scopes element next (.member target field)
        (.constant (Value.ofType field.type) field.type)
  | constant {scopes element next} (value type) :
      Converts task events scopes element next (.constant value type) (.constant value type)
  | binary {scopes element next op left left' right right'} :
      Converts task events scopes none next left left' →
      Converts task events scopes none next right right' →
      Converts task events scopes element next (.binary op left right) (.binary op left' right')
  | unary {scopes element next op operand operand'} :
      Converts task events scopes none next operand operand' →
      Converts task events scopes element next (.unary op operand) (.unary op operand')
  | call {scopes element next method receiver receiver' arguments arguments'} :
      Converts task events scopes none next receiver receiver' →
      arguments.length = arguments'.length →
      (∀ e e', (e, e') ∈ arguments.zip arguments' →
        Converts task events scopes receiver'.resultType.elementShapeName? next e e') →
      Converts task events scopes element next (.call method receiver arguments)
        (.call method receiver' arguments')
  | conditional {scopes element next test test' ifTrue ifTrue' ifFalse ifFalse'} :
      Converts task events scopes none next test test' →
      Converts task events scopes none next ifTrue ifTrue' →
      Converts task events scopes none next ifFalse ifFalse' →
      Converts task events scopes element next (.conditional test ifTrue ifFalse)
        (.conditional test' ifTrue' ifFalse')
  | lambda {scopes element next later p q body body'} :
      Replaces task element next p q later →
      Converts task events ((p, q) :: scopes) none later body body' →
      Converts task events scopes element next (.lambda p body) (.lambda q body')
  | init {scopes element next shape bindings bindings'} :
      bindings.map Prod.fst = bindings'.map Prod.fst →
      (∀ b b', (b, b') ∈ bindings.zip bindings' →
        Converts task events scopes none next b.2 b'.2) →
      Converts task events scopes element next (.init shape bindings) (.init shape bindings')

variable {task : Task σ} {events : List ConversionEvent} {scopes : Scopes} {element : Option String}
  {next : Nat} {e e' : Expr}

/-- An access that is not direct is looked up under the name of its field. -/
theorem yields_ownName {field : FieldDescriptor} {name : String} {origin : NameOrigin}
    {start finish : State σ}
    (h : Yields (task.destinationName field false) start (name, origin) finish) :
    name = field.name := by
  have hname : (field.name, NameOrigin.sameName) = (name, origin) := (yields_pure.1 h).1
  exact (congrArg Prod.fst hname).symm

/-- A conversion that succeeds without a custom map relates an expression to its counterpart. -/
theorem counterpart_converts (hmap : task.options.customMap = none) {start finish : State σ}
    (h : Yields (counterpart task scopes element e) start e' finish)
    (hnext : next ≤ start.nextIdentity) (hevents : finish.events ⊆ events) :
    Converts task events scopes element next e e' := by
  induction e generalizing scopes element next e' start finish with
  | parameter p =>
      obtain ⟨rfl, _⟩ := counterpart_parameter h
      exact .parameter p
  | member target field ih =>
      obtain ⟨target', asked, name, origin, named, htarget, hname, hconclude⟩ :=
        counterpart_member hmap h
      have hnamed := (destinationName_grows task _ _).extends_of_yields hname
      have hfinish := (conclude_grows task _ _ _ _).extends_of_yields hconclude
      have hasked := (hfinish.trans hnamed).events.subset
      rcases yields_conclude hconclude with
        ⟨shape, field', hshape, hfound, rfl⟩ | ⟨_, hhandling, rfl, searched, hevent⟩
      · refine .member (ih htarget hnext (List.Subset.trans hasked hevents)) (fun hdirect => ?_)
          hshape hfound
        rw [hdirect] at hname
        exact yields_ownName hname
      · exact .default hhandling (hevents hevent)
  | constant value type =>
      obtain ⟨rfl, _⟩ := counterpart_constant h
      exact .constant value type
  | binary op left right ihleft ihright =>
      obtain ⟨left', middle, right', hleft, hright, rfl⟩ := counterpart_binary h
      have hmiddle := (counterpart_extends hright).events.subset
      exact .binary (ihleft hleft hnext (List.Subset.trans hmiddle hevents))
        (ihright hright (Nat.le_trans hnext (counterpart_extends hleft).identity) hevents)
  | unary op operand ih =>
      obtain ⟨operand', hoperand, rfl⟩ := counterpart_unary h
      exact .unary (ih hoperand hnext hevents)
  | call method receiver arguments ihreceiver iharguments =>
      obtain ⟨receiver', middle, arguments', _, hreceiver, harguments, rfl⟩ := counterpart_call h
      have hmiddle := (argument_counterparts_extend harguments).events.subset
      have hforall := argument_counterparts_forall harguments
      refine .call (ihreceiver hreceiver hnext (List.Subset.trans hmiddle hevents))
        hforall.length_eq fun e e' hmem => ?_
      obtain ⟨before, after, hbefore, hafter, hyields⟩ := List.forall₂_zip hforall hmem
      have hidentity := (hbefore.trans (counterpart_extends hreceiver)).identity
      exact iharguments e (List.of_mem_zip hmem).1 hyields (Nat.le_trans hnext hidentity)
        (List.Subset.trans hafter.events.subset hevents)
  | conditional test ifTrue ifFalse ihtest ihtrue ihfalse =>
      obtain ⟨test', tested, ifTrue', middle, ifFalse', htest, htrue, hfalse, rfl⟩ :=
        counterpart_conditional h
      have hlast := counterpart_extends hfalse
      have hmiddle := hlast.trans (counterpart_extends htrue)
      have htested := Nat.le_trans hnext (counterpart_extends htest).identity
      exact .conditional (ihtest htest hnext (List.Subset.trans hmiddle.events.subset hevents))
        (ihtrue htrue htested (List.Subset.trans hlast.events.subset hevents))
        (ihfalse hfalse (Nat.le_trans htested (counterpart_extends htrue).identity) hevents)
  | lambda p body ih =>
      obtain ⟨p', middle, body', hparameter, hbody, rfl⟩ := counterpart_lambda h
      rcases yields_lambdaParameter hparameter with ⟨hsource, rfl, hmiddle⟩ | ⟨hother, rfl, rfl⟩
      · exact .lambda (.renewed hsource rfl rfl hnext)
          (ih hbody (Nat.le_of_eq hmiddle.symm) hevents)
      · exact .lambda (.kept hother) (ih hbody hnext hevents)
  | init shape bindings ih =>
      obtain ⟨bindings', hbindings, rfl⟩ := counterpart_init h
      have hforall := binding_counterparts_forall hbindings
      have hnames : bindings.map Prod.fst = bindings'.map Prod.fst := by
        rw [← List.forall₂_eq_eq_eq, List.forall₂_map_left_iff, List.forall₂_map_right_iff]
        exact hforall.imp fun b b' hb => hb.1
      refine .init hnames fun b b' hmem => ?_
      obtain ⟨_, before, after, hbefore, hafter, hyields⟩ := List.forall₂_zip hforall hmem
      exact ih b (List.of_mem_zip hmem).1 hyields (Nat.le_trans hnext hbefore.identity)
        (List.Subset.trans hafter.events.subset hevents)

/-! ## Nodes -/

/-- Apart from references and lambdas, the direct parts of a counterpart are counterparts of direct
parts inside the same scopes. The element shape is that of one of the parts. -/
theorem Converts.parts (h : Converts task events scopes element next e e') (hown : e.own? = none) :
    e'.own? = none ∧ ∀ part' ∈ e'.children, ∃ part ∈ e.children, ∃ element,
      Converts task events scopes element next part part' ∧
      ∀ name, element = some name → ∃ receiver ∈ e.children, ∃ receiver' ∈ e'.children,
        Converts task events scopes none next receiver receiver' ∧
        receiver'.resultType.elementShapeName? = some name := by
  cases h with
  | parameter => cases hown
  | @member _ _ _ target _ _ _ _ _ htarget =>
      exact ⟨rfl, List.forall_mem_singleton.2 ⟨target, by simp [Expr.children], none, htarget,
        by simp⟩⟩
  | default => exact ⟨rfl, by simp [Expr.children]⟩
  | constant => exact ⟨rfl, by simp [Expr.children]⟩
  | @binary _ _ _ _ left _ right _ hleft hright =>
      refine ⟨rfl, List.forall_mem_cons.2 ⟨?_, List.forall_mem_singleton.2 ?_⟩⟩
      · exact ⟨left, by simp [Expr.children], none, hleft, by simp⟩
      · exact ⟨right, by simp [Expr.children], none, hright, by simp⟩
  | @unary _ _ _ _ operand _ hoperand =>
      exact ⟨rfl, List.forall_mem_singleton.2 ⟨operand, by simp [Expr.children], none, hoperand,
        by simp⟩⟩
  | @call _ _ _ _ receiver receiver' arguments _ hreceiver hlength harguments =>
      refine ⟨rfl, List.forall_mem_cons.2 ⟨?_, fun part' hpart' => ?_⟩⟩
      · exact ⟨receiver, by simp [Expr.children], none, hreceiver, by simp⟩
      · obtain ⟨argument, hmem⟩ := exists_mem_zip hlength hpart'
        exact ⟨argument, by simp [Expr.children, (List.of_mem_zip hmem).1], _,
          harguments argument part' hmem, fun name hname =>
            ⟨receiver, List.mem_cons_self, receiver', List.mem_cons_self, hreceiver, hname⟩⟩
  | @conditional _ _ _ test _ ifTrue _ ifFalse _ htest htrue hfalse =>
      refine ⟨rfl, List.forall_mem_cons.2
        ⟨?_, List.forall_mem_cons.2 ⟨?_, List.forall_mem_singleton.2 ?_⟩⟩⟩
      · exact ⟨test, by simp [Expr.children], none, htest, by simp⟩
      · exact ⟨ifTrue, by simp [Expr.children], none, htrue, by simp⟩
      · exact ⟨ifFalse, by simp [Expr.children], none, hfalse, by simp⟩
  | lambda => cases hown
  | init hnames hbindings =>
      refine ⟨rfl, fun part' hpart' => ?_⟩
      obtain ⟨b', hb', rfl⟩ := List.mem_map.1 hpart'
      obtain ⟨b, hmem⟩ := exists_binding_mem_zip hnames hb'
      exact ⟨b.2, List.mem_map_of_mem (List.of_mem_zip hmem).1, none, hbindings b b' hmem, by simp⟩

/-- `Scoped source scopes e` says that `e` refers only to parameters in scope, and that only those
over the source shape have another one in their place. -/
structure Scoped (source : String) (scopes : Scopes) (e : Expr) : Prop where
  references : e.ScopedIn (scopes.map Prod.fst)
  kept : ∀ scope ∈ scopes, scope.1.shape? ≠ some source → scope.2 = scope.1

namespace Scoped

variable {source : String}

/-- Parts are scoped when the whole is. -/
theorem child {part : Expr} (h : Scoped source scopes e) (hown : e.own? = none)
    (hpart : part ∈ e.children) : Scoped source scopes part :=
  ⟨(Expr.scopedIn_parts hown).1 h.references part hpart, h.kept⟩

/-- The body of a lambda is scoped inside its parameter. -/
theorem body {p q : Parameter} {later : Nat} {body : Expr}
    (h : Scoped task.source scopes (.lambda p body)) (hq : Replaces task element next p q later) :
    Scoped task.source ((p, q) :: scopes) body :=
  ⟨Expr.scopedIn_lambda.1 h.references, List.forall_mem_cons.2 ⟨hq.eq_of_other, h.kept⟩⟩

/-- The parameter in scope that is referred to gives way to the one in its place. -/
theorem exists_scope {p : Parameter} (h : Scoped task.source scopes (.parameter p)) :
    ∃ scope ∈ scopes, scope.1 = p ∧ task.replacement scopes p = scope.2 := by
  have hfind := Expr.scopedIn_parameter.1 h.references
  rw [List.find?_map] at hfind
  obtain ⟨scope, hscope, hp⟩ := Option.map_eq_some_iff.1 hfind
  have hfound : (scopes.find? fun scope => scope.1.denotes p) = some scope := hscope
  refine ⟨scope, List.mem_of_find?_eq_some hscope, hp, ?_⟩
  rw [Task.replacement, hfound]

/-- A parameter that is not over the source shape stays in its place. -/
theorem replacement_eq {p : Parameter} (h : Scoped task.source scopes (.parameter p))
    (hother : p.shape? ≠ some task.source) : task.replacement scopes p = p := by
  obtain ⟨scope, hscope, rfl, hreplacement⟩ := h.exists_scope
  rw [hreplacement, h.kept scope hscope hother]

end Scoped

/-- Every node of a counterpart is a counterpart of a node. -/
theorem Converts.nodes (h : Converts task events scopes element next e e') :
    ∀ node' ∈ e'.nodes, ∃ node ∈ e.nodes, ∃ around element later, next ≤ later ∧
      (Scoped task.source scopes e → Scoped task.source around node) ∧
      Converts task events around element later node node' := by
  induction e using Expr.binding_induction generalizing scopes element next e' with
  | parameter p =>
      refine Expr.forall_nodes_iff.2
        ⟨⟨_, Expr.self_mem_nodes _, _, _, _, Nat.le_refl _, id, h⟩, ?_⟩
      cases h
      simp [Expr.children]
  | lambda p body ih =>
      refine Expr.forall_nodes_iff.2
        ⟨⟨_, Expr.self_mem_nodes _, _, _, _, Nat.le_refl _, id, h⟩, ?_⟩
      cases h with
      | lambda hq hbody =>
          refine List.forall_mem_singleton.2 fun node' hnode' => ?_
          obtain ⟨node, hnode, around, element, later, hlater, hscoped, hnodes⟩ :=
            ih hbody node' hnode'
          exact ⟨node, Expr.mem_nodes_of_child hnode (by simp [Expr.children]), around, element,
            later, Nat.le_trans hq.le hlater, fun h => hscoped (h.body hq), hnodes⟩
  | parts e hown ih =>
      refine Expr.forall_nodes_iff.2 ⟨⟨_, Expr.self_mem_nodes _, _, _, _, Nat.le_refl _, id, h⟩,
        fun part' hpart' node' hnode' => ?_⟩
      obtain ⟨part, hpart, element, hconverts, _⟩ := (h.parts hown).2 part' hpart'
      obtain ⟨node, hnode, around, element, later, hlater, hscoped, hnodes⟩ :=
        ih part hpart hconverts node' hnode'
      exact ⟨node, Expr.mem_nodes_of_child hnode hpart, around, element, later, hlater,
        fun h => hscoped (h.child hown hpart), hnodes⟩

end Reshape.Conversion
