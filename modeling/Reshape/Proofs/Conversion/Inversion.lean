import Reshape.Proofs.Conversion.Compatibility
import Reshape.Proofs.Conversion.Composition

/-!
# Conversions there and back

When no two fields of a shape are mapped to one name, mapping each name back to its field undoes a
conversion (`inverseMap`): converting what a predicate is converted to back to its shape gives the
predicate again, with a new parameter of the old name (`conversion_inverted`).

On the way back every lookup succeeds, whatever types the fields of the destination shape have: what
a part is carried back to has the type of the part, and there the predicate found its field.
-/

namespace Reshape

open Conversion

namespace Conversion

/-! ## Transfers there and back -/

/-- `back.Inverts there e` says that `back` puts a parameter of the type of the old one in the place
of the new one of `there`, and that for what the accesses in `e` are carried over to it has the names
of their fields, which the registry has on the types of their targets. -/
structure Transfer.Inverts (back there : Transfer) (e : Expr) : Prop where
  registry : back.registry = there.registry
  before : back.before = there.after
  type : ∀ p ∈ e.parameters, p.denotes there.before → p.type = back.after.type
  older : e.OlderThan there.after.identity
  resolved : e.Resolved there.registry
  name : ∀ target field target' field', .member target field ∈ e.nodes →
    there.carry? target = some target' → there.field? target field target' = some field' →
      back.name target' field' = field.name

namespace Transfer

variable {there back : Transfer} {e e' part : Expr}

theorem Inverts.child (h : back.Inverts there e) (hpart : part ∈ e.children) :
    back.Inverts there part where
  registry := h.registry
  before := h.before
  type p hp := h.type p (Expr.mem_parameters_of_child hp hpart)
  older := h.older.child hpart
  resolved target field hnode := h.resolved target field (Expr.mem_nodes_of_child hnode hpart)
  name target field target' field' hnode :=
    h.name target field target' field' (Expr.mem_nodes_of_child hnode hpart)

/-- A reference comes back with the label of the new parameter. -/
theorem Inverts.parameter_eq {p : Parameter} (h : back.Inverts there (.parameter p)) :
    Expr.parameter (back.parameter (there.parameter p)) =
      (Expr.parameter p).relabelled there.before back.after.identity back.after.name := by
  have holder : p.identity < there.after.identity := h.older.own rfl
  rw [Expr.relabelled, Expr.parameter.injEq]
  cases hdenotes : p.denotes there.before with
  | true =>
      have hthere : there.parameter p = back.before := by
        rw [h.before]
        exact if_pos hdenotes
      have hback : back.parameter back.before = back.after := if_pos (Parameter.denotes_self _)
      rw [hthere, hback, if_pos rfl, h.type p (Expr.mem_parameters_of_own rfl) hdenotes]
  | false =>
      have hthere : there.parameter p = p := if_neg (by simp [hdenotes])
      have hnew : p.denotes back.before = false := by
        rw [h.before, Parameter.denotes, beq_eq_false_iff_ne]
        omega
      have hback : back.parameter p = p := if_neg (by simp [hnew])
      rw [hthere, hback]
      rfl

/-- What is carried over comes back, with the label of the new parameter. -/
theorem Inverts.carry? (h : back.Inverts there e) (hthere : there.carry? e = some e') :
    back.carry? e' =
      some (e.relabelled there.before back.after.identity back.after.name) := by
  induction e generalizing e' with
  | parameter p =>
      obtain rfl := carry?_parameter.1 hthere
      rw [carry?_parameter, h.parameter_eq]
  | member target field ih =>
      obtain ⟨target', field', htarget', hfield', rfl⟩ := carry?_member.1 hthere
      refine carry?_member.2 ⟨_, field, ih (h.child (by simp [Expr.children])) htarget', ?_, rfl⟩
      obtain ⟨shape, hshape, hfound⟩ := h.resolved target field (Expr.self_mem_nodes _)
      rw [field?, Expr.shape?_relabelled, hshape, Option.bind_some,
        h.name target field target' field' (Expr.self_mem_nodes _) htarget' hfield', h.registry]
      exact hfound
  | constant value type =>
      obtain rfl := carry?_constant.1 hthere
      exact carry?_constant.2 rfl
  | binary op left right ihleft ihright =>
      obtain ⟨left', right', hleft', hright', rfl⟩ := carry?_binary.1 hthere
      exact carry?_binary.2 ⟨_, _, ihleft (h.child (by simp [Expr.children])) hleft',
        ihright (h.child (by simp [Expr.children])) hright', rfl⟩
  | unary op operand ih =>
      obtain ⟨operand', hoperand', rfl⟩ := carry?_unary.1 hthere
      exact carry?_unary.2 ⟨_, ih (h.child (by simp [Expr.children])) hoperand', rfl⟩
  | call method receiver arguments ihreceiver iharguments =>
      obtain ⟨haccepts, receiver', arguments', hreceiver', harguments', rfl⟩ :=
        carry?_call.1 hthere
      rw [harguments'.length_eq] at haccepts
      refine carry?_call.2 ⟨haccepts, _, _,
        ihreceiver (h.child (by simp [Expr.children])) hreceiver', ?_, rfl⟩
      rw [Expr.relabelled_arguments_eq, List.forall₂_map_right_iff]
      refine List.Forall₂.flip (forall₂_imp_of_mem harguments' fun e he e' he' => ?_)
      exact iharguments e he (h.child (by simp [Expr.children, he])) he'
  | conditional test ifTrue ifFalse ihtest ihtrue ihfalse =>
      obtain ⟨test', ifTrue', ifFalse', htest', htrue', hfalse', rfl⟩ :=
        carry?_conditional.1 hthere
      exact carry?_conditional.2
        ⟨_, _, _, ihtest (h.child (by simp [Expr.children])) htest',
          ihtrue (h.child (by simp [Expr.children])) htrue',
          ihfalse (h.child (by simp [Expr.children])) hfalse', rfl⟩
  | lambda p body ih =>
      obtain ⟨body', hbody', rfl⟩ := carry?_lambda.1 hthere
      exact carry?_lambda.2 ⟨_, ih (h.child (by simp [Expr.children])) hbody', rfl⟩
  | init shape bindings ih =>
      obtain ⟨bindings', hbindings', rfl⟩ := carry?_init.1 hthere
      refine carry?_init.2 ⟨_, ?_, rfl⟩
      rw [Expr.relabelled_bindings_eq, List.forall₂_map_right_iff]
      refine List.Forall₂.flip (forall₂_imp_of_mem hbindings' fun b hb b' hb' => ?_)
      exact ⟨hb'.1.symm, ih b hb (h.child (List.mem_map_of_mem hb)) hb'.2⟩

end Transfer

/-! ## Inverse maps -/

/-- `inverseMap registry options fields` maps the resolved name of each field back to the field. -/
def inverseMap (registry : Registry) (options : Options) (fields : List FieldDescriptor) :
    MemberMap :=
  .ofPairs (fields.map fun field => ((directName registry options field).1, field.name))

variable {registry : Registry} {options : Options} {source destination : String} {shape : Shape}
  {predicate converted : Predicate} {nextIdentity : Nat}

/-- If no two fields have one resolved name, what is looked up for a resolved name is the field. -/
theorem directName_inverseMap {fields : List FieldDescriptor} {field field' : FieldDescriptor}
    (hinjective : ∀ f ∈ fields, ∀ g ∈ fields,
      (directName registry options f).1 = (directName registry options g).1 → f = g)
    (hfield : field ∈ fields) (hname : field'.name = (directName registry options field).1) :
    (directName registry (inverseMap registry options fields).options field').1 = field.name := by
  have hmapped : (inverseMap registry options fields).options.mappedName? field'.name =
      some field.name := by
    refine MemberMap.target?_ofPairs ?_ ?_
    · rw [hname]
      exact List.mem_map_of_mem hfield
    · intro other hother
      obtain ⟨f, hf, hpair⟩ := List.mem_map.1 hother
      rw [Prod.mk.injEq, hname] at hpair
      rw [hinjective f hf field hfield hpair.1] at hpair
      exact hpair.2.symm
  rw [directName_of_mapped hmapped]

/-- A field that is read on the parameter, and that the registry has on its type, is one of the
source shape. -/
theorem field_of_resolved (hbuilt : registry.Built) (hranges : predicate.RangesOver source)
    (hcoherent : predicate.Coherent) (hresolved : predicate.body.Resolved registry)
    (hshape : registry.shape? source = some shape) {target : Expr} {field : FieldDescriptor}
    (hnode : .member target field ∈ predicate.body.nodes)
    (htarget : target.isReferenceTo predicate.parameter) :
    field ∈ shape.fields ∧ field.declaringShape = source := by
  have hmember := hresolved.member?_of_reference
    (fun _ => hranges.shape?_of_denotes hcoherent) hnode htarget
  rw [Registry.member?, hshape] at hmember
  have hfield : field ∈ shape.fields := List.mem_of_find?_eq_some hmember
  have hname : shape.name = source := by simpa using List.find?_some hshape
  exact ⟨hfield, (hbuilt.declaringShape_eq (List.mem_of_find?_eq_some hshape) hfield).trans hname⟩

/-- Under the inverse map, what the body is carried over to is carried back. -/
theorem inverseMap_inverts (nextIdentity' : Nat) (hbuilt : registry.Built)
    (hranges : predicate.RangesOver source)
    (hcoherent : predicate.Coherent) (holder : predicate.OlderThan nextIdentity)
    (hresolved : predicate.body.Resolved registry) (hshape : registry.shape? source = some shape)
    (hinjective : ∀ f ∈ shape.fields, ∀ g ∈ shape.fields,
      (directName registry options f).1 = (directName registry options g).1 → f = g)
    (hparameter : converted.parameter = rootParameter predicate destination nextIdentity) :
    (bodyTransfer registry (inverseMap registry options shape.fields).options converted destination
        source nextIdentity').Inverts
      (bodyTransfer registry options predicate source destination nextIdentity) predicate.body where
  registry := rfl
  before := hparameter
  type p hp hdenotes := by
    obtain rfl := hcoherent p (List.mem_cons_of_mem _ hp) _ List.mem_cons_self hdenotes
    exact hranges.type
  older p hp := holder p (List.mem_cons_of_mem _ hp)
  resolved := hresolved
  name := by
    intro target field target' field' hnode htarget' hfield'
    -- a field that is read on the parameter was found on the source shape, which declares it
    have hsource : target.isReferenceTo predicate.parameter →
        field ∈ shape.fields ∧ field.declaringShape = source :=
      fun htarget => field_of_resolved hbuilt hranges hcoherent hresolved hshape hnode htarget
    rcases carried_access hbuilt holder hparameter hnode (fun htarget => (hsource htarget).2)
        htarget' hfield' with
      ⟨_, htarget'', hname⟩ | ⟨htarget, htarget'', hdestination, hfound⟩
    · rw [Transfer.name_other htarget'', hname]
    · obtain ⟨_, _, _, _, hname⟩ := Registry.mem_of_member? hfound
      rw [Transfer.name_direct htarget'' hdestination]
      exact directName_inverseMap hinjective (hsource htarget).1 hname

variable {nextIdentity' : Nat} {clock clock' : Clock} {scope scope' : Nat} {cache cache' : Cache}
  {final : State Cache}

/-- When no two fields of the source shape have one resolved name, what a boolean predicate is
converted to is converted back to the predicate, under the map from the resolved names back to the
fields. Only the parameter is a new one, named as the old one was or by default. -/
theorem conversion_inverted (hbuilt : registry.Built) (hranges : predicate.RangesOver source)
    (hlambda : ∀ p body, .lambda p body ∈ predicate.body.nodes → p.shape? ≠ some destination)
    (hresolved : predicate.body.Resolved registry) (hboolean : predicate.isBoolean)
    (hshape : registry.shape? source = some shape)
    (hinjective : ∀ f ∈ shape.fields, ∀ g ∈ shape.fields,
      (directName registry options f).1 = (directName registry options g).1 → f = g)
    (hcoherent : predicate.Coherent) (holder : predicate.OlderThan nextIdentity)
    (hlater : nextIdentity < nextIdentity') (hmap : options.customMap = none)
    (hstrict : options.errorHandling = .throw) (hcache : cache.AgreesWith (registry.table scope))
    (hcache' : cache'.AgreesWith (registry.table scope'))
    (hconvert : predicate.convert registry options clock scope destination nextIdentity cache =
      (.ok converted, final)) :
    (converted.convert registry (inverseMap registry options shape.fields).options clock' scope'
        source nextIdentity' cache').1 =
      .ok (predicate.relabelled nextIdentity'
        (some (predicate.parameter.name.getD fallbackName))) := by
  obtain ⟨hsource, hdestination, hparameter, hcarry, _⟩ :=
    (convert_eq_ok_iff hranges hcoherent holder hmap hstrict hcache).1 (congrArg Prod.fst hconvert)
  have hranges' := converted_rangesOver hranges holder hmap hlambda hconvert hparameter hcarry
  have hcoherent' := converted_coherent hcoherent holder hparameter hcarry
  have holder' : converted.OlderThan nextIdentity' := fun p hp =>
    Nat.lt_of_lt_of_le (converted_olderThan holder hparameter hcarry p hp) hlater
  have hinverts := inverseMap_inverts nextIdentity' hbuilt hranges hcoherent holder hresolved hshape
    hinjective hparameter
  have hroot : (⟨nextIdentity', some (predicate.parameter.name.getD fallbackName),
      predicate.parameter.type⟩ : Parameter) = rootParameter converted source nextIdentity' := by
    rw [hranges.type, rootParameter, hparameter]
    rfl
  refine (convert_eq_ok_iff hranges' hcoherent' holder' rfl rfl hcache').2
    ⟨hdestination, hsource, hroot, ?_, ?_⟩
  · have hname : some (predicate.parameter.name.getD fallbackName) =
        (rootParameter converted source nextIdentity').name := congrArg Parameter.name hroot
    rw [hinverts.carry? hcarry, hname]
    rfl
  · intro _
    rwa [Predicate.isBoolean, Predicate.relabelled, Expr.resultType_relabelled]

end Conversion

/-- No two fields of orders become one of views, so that the views with a large item are the orders
with one again. -/
theorem sample_inverted :
    (Sample.large.convert Sample.registry .default id 0 "View" 2 (.empty .unbounded)).1 =
        .ok Sample.largeView ∧
      (Sample.largeView.convert Sample.registry
        (MemberMap.options ⟨[("Amount", "Total"), ("Note", "Note"), ("Items", "Items"),
          ("Parts", "Parts")]⟩) id 0 "Order" 3 (.empty .unbounded)).1 =
        .ok (Sample.large.relabelled 3 (some "o")) := by
  have hlambda : ∀ p body, .lambda p body ∈ Sample.large.body.nodes → p.shape? ≠ some "View" := by
    intro p body hnode
    rw [Sample.large_lambda hnode]
    decide
  have hinjective : ∀ f ∈ Sample.order.shape.fields, ∀ g ∈ Sample.order.shape.fields,
      (directName Sample.registry .default f).1 = (directName Sample.registry .default g).1 →
        f = g := by decide
  have hmap : inverseMap Sample.registry .default Sample.order.shape.fields =
      ⟨[("Amount", "Total"), ("Note", "Note"), ("Items", "Items"), ("Parts", "Parts")]⟩ := by
    decide
  have hconvert : Sample.large.convert Sample.registry .default id 0 "View" 2 (.empty .unbounded) =
      (.ok Sample.largeView, _) := rfl
  have hinverted : (Sample.largeView.convert Sample.registry
      (inverseMap Sample.registry .default Sample.order.shape.fields).options id 0 "Order" 3
      (.empty .unbounded)).1 = .ok (Sample.large.relabelled 3 (some "o")) :=
    conversion_inverted Sample.registry_built Sample.large_readsFieldsOf.rangesOver hlambda
      Sample.large_resolved rfl rfl hinjective Sample.large_coherent Sample.large_olderThan
      (by decide) rfl rfl (Cache.empty_agreesWith _ _) (Cache.empty_agreesWith _ _) hconvert
  rw [hmap] at hinverted
  exact ⟨rfl, hinverted⟩

end Reshape
