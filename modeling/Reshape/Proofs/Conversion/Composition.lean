import Reshape.Proofs.Conversion.Scope
import Reshape.Proofs.Conversion.Strict
import Reshape.Proofs.Entries
import Reshape.Proofs.Expr.Relabelling

/-!
# Conversions one after the other

Converting a predicate to one shape and the result to another is converting it to the other shape at
once, under the member map that maps each field read on the parameter as both conversions do
(`composedMap`): `conversions_compose`.

Both conversions carry the body over, the second from the destination parameter of the first. An
access on that parameter comes from one on the original parameter, and all others keep the names of
their fields.
-/

namespace Reshape

open Conversion

namespace Conversion

/-! ## Conversions that go on -/

section

variable {registry : Registry} {options : Options} {predicate converted : Predicate}
  {source destination : String} {nextIdentity : Nat}

/-- What a predicate is converted to has the destination parameter and others that it had before. -/
theorem mem_parameters_of_converted
    (hparameter : converted.parameter = rootParameter predicate destination nextIdentity)
    (hcarry : (bodyTransfer registry options predicate source destination nextIdentity).carry?
      predicate.body = some converted.body) {p : Parameter} (hp : p ∈ converted.parameters) :
    p = rootParameter predicate destination nextIdentity ∨ p ∈ predicate.parameters := by
  rcases List.mem_cons.1 hp with rfl | hp
  · exact Or.inl hparameter
  · exact (Transfer.mem_parameters_of_carry? hcarry hp).imp_right (List.mem_cons_of_mem _)

/-- What a predicate is converted to only has parameters that came before the next identity. -/
theorem converted_olderThan (holder : predicate.OlderThan nextIdentity)
    (hparameter : converted.parameter = rootParameter predicate destination nextIdentity)
    (hcarry : (bodyTransfer registry options predicate source destination nextIdentity).carry?
      predicate.body = some converted.body) : converted.OlderThan (nextIdentity + 1) := by
  intro p hp
  rcases mem_parameters_of_converted hparameter hcarry hp with rfl | hp
  · exact Nat.lt_succ_self _
  · exact Nat.lt_succ_of_lt (holder p hp)

/-- References in what a predicate is converted to agree as those in the predicate do. -/
theorem converted_coherent (hcoherent : predicate.Coherent)
    (holder : predicate.OlderThan nextIdentity)
    (hparameter : converted.parameter = rootParameter predicate destination nextIdentity)
    (hcarry : (bodyTransfer registry options predicate source destination nextIdentity).carry?
      predicate.body = some converted.body) : converted.Coherent := by
  -- the destination parameter came after all others, so that nothing else denotes it
  have hroot : ∀ q ∈ predicate.parameters,
      q.identity ≠ (rootParameter predicate destination nextIdentity).identity :=
    fun q hq => Nat.ne_of_lt (holder q hq)
  intro p hp q hq hdenotes
  have hidentity := Parameter.denotes_iff.1 hdenotes
  rcases mem_parameters_of_converted hparameter hcarry hp with rfl | hp
  · rcases mem_parameters_of_converted hparameter hcarry hq with rfl | hq
    · rfl
    · exact (hroot q hq hidentity.symm).elim
  · rcases mem_parameters_of_converted hparameter hcarry hq with rfl | hq
    · exact (hroot p hp hidentity).elim
    · exact hcoherent p hp q hq hdenotes

/-- What a predicate is converted to ranges over the destination shape if no lambda did. -/
theorem converted_rangesOver {clock : Clock} {scope : Nat} {cache : Cache} {final : State Cache}
    (hranges : predicate.RangesOver source) (holder : predicate.OlderThan nextIdentity)
    (hmap : options.customMap = none)
    (hlambda : ∀ p body, .lambda p body ∈ predicate.body.nodes → p.shape? ≠ some destination)
    (hconvert : predicate.convert registry options clock scope destination nextIdentity cache =
      (.ok converted, final))
    (hparameter : converted.parameter = rootParameter predicate destination nextIdentity)
    (hcarry : (bodyTransfer registry options predicate source destination nextIdentity).carry?
      predicate.body = some converted.body) : converted.RangesOver destination where
  type := by rw [hparameter]; rfl
  closed := (convert_references holder hranges.closed hmap hconvert).closedIn
  lambda p body' hnode' := by
    obtain ⟨body, hnode⟩ := Transfer.exists_lambda_of_carry? hcarry hnode'
    exact hlambda p body hnode

/-- An access on anything but the parameter keeps the name of its field, and one on the parameter to
a field of the source shape becomes one on the destination parameter, to the field that the
destination shape has under the resolved name. -/
theorem carried_access (hbuilt : registry.Built) (holder : predicate.OlderThan nextIdentity)
    (hparameter : converted.parameter = rootParameter predicate destination nextIdentity)
    {target target' : Expr} {field field' : FieldDescriptor}
    (hnode : .member target field ∈ predicate.body.nodes)
    (hdeclaring : target.isReferenceTo predicate.parameter → field.declaringShape = source)
    (htarget' : (bodyTransfer registry options predicate source destination nextIdentity).carry?
      target = some target')
    (hfield' : (bodyTransfer registry options predicate source destination nextIdentity).field?
      target field target' = some field') :
    target.isReferenceTo predicate.parameter = false ∧
        target'.isReferenceTo converted.parameter = false ∧ field'.name = field.name ∨
      target.isReferenceTo predicate.parameter ∧ target'.isReferenceTo converted.parameter ∧
        field'.declaringShape = destination ∧
        registry.member? destination (directName registry options field).1 = some field' := by
  have htargetOlder : target.OlderThan nextIdentity := fun p hp =>
    holder p (List.mem_cons_of_mem _ (Expr.mem_parameters_of_node
      (Expr.mem_parameters_of_child hp (by simp [Expr.children])) hnode))
  have hsame : target'.isReferenceTo converted.parameter =
      target.isReferenceTo predicate.parameter := by
    rw [hparameter]
    exact Transfer.isReferenceTo_of_carry? htarget' htargetOlder
  cases htarget : target.isReferenceTo predicate.parameter with
  | false =>
      obtain ⟨shape, _, hfound⟩ := Option.bind_eq_some_iff.1 hfield'
      obtain ⟨_, _, _, _, hname⟩ := Registry.mem_of_member? hfound
      exact Or.inl ⟨rfl, hsame.trans htarget, hname.trans (Transfer.name_other htarget)⟩
  | true =>
      -- the new target is the destination parameter, so that the field is one of its shape
      obtain rfl := Option.some.inj ((Transfer.carry?_reference htarget).symm.trans htarget')
      rw [Transfer.field?_direct htarget (hdeclaring htarget)] at hfield'
      obtain ⟨found, hmem, hfoundName, hfields, _⟩ := Registry.mem_of_member? hfield'
      exact Or.inr ⟨rfl, hsame.trans htarget,
        (hbuilt.declaringShape_eq hmem hfields).trans hfoundName, hfield'⟩

end

/-! ## Composition of transfers -/

/-- `third.Composes first second e` says that `third` puts the old parameter of `first` where
`second` puts the new one of `first`, and that for the accesses in `e` it has the names that `second`
has for what `first` carries them over to. -/
structure Transfer.Composes (third first second : Transfer) (e : Expr) : Prop where
  registry : second.registry = first.registry ∧ third.registry = first.registry
  before : second.before = first.after ∧ third.before = first.before
  type : third.after.type = second.after.type
  older : e.OlderThan first.after.identity
  later : first.after.identity < second.after.identity
  name : ∀ target field target' field', .member target field ∈ e.nodes →
    first.carry? target = some target' → first.field? target field target' = some field' →
      third.name target field = second.name target' field'

namespace Transfer

variable {first second third : Transfer} {e e' e'' part : Expr}

/-- What composes for an expression composes for its parts. -/
theorem Composes.child (h : third.Composes first second e) (hpart : part ∈ e.children) :
    third.Composes first second part where
  registry := h.registry
  before := h.before
  type := h.type
  older := h.older.child hpart
  later := h.later
  name target field target' field' hnode :=
    h.name target field target' field' (Expr.mem_nodes_of_child hnode hpart)

/-- A reference is put where it is put one after the other. -/
theorem Composes.parameter_eq {p : Parameter} (h : third.Composes first second (.parameter p)) :
    Expr.parameter (third.parameter p) =
      (Expr.parameter (second.parameter (first.parameter p))).relabelled second.after
        third.after.identity third.after.name := by
  have holder : p.identity < first.after.identity := h.older.own rfl
  rw [Expr.relabelled, Expr.parameter.injEq, parameter, h.before.2]
  cases hdenotes : p.denotes first.before with
  | true =>
      have hfirst : first.parameter p = second.before := by
        rw [h.before.1]
        exact if_pos hdenotes
      have hsecond : second.parameter second.before = second.after :=
        if_pos (Parameter.denotes_self _)
      rw [hfirst, hsecond, if_pos rfl, if_pos (Parameter.denotes_self _), ← h.type]
  | false =>
      -- `p` came before both new parameters, and denotes neither
      have hfirst : first.parameter p = p := if_neg (by simp [hdenotes])
      have hmiddle : p.denotes second.before = false := by
        rw [h.before.1, Parameter.denotes, beq_eq_false_iff_ne]
        omega
      have hsecond : second.parameter p = p := if_neg (by simp [hmiddle])
      have hlast : p.denotes second.after = false := by
        have hlater := h.later
        rw [Parameter.denotes, beq_eq_false_iff_ne]
        omega
      rw [hfirst, hsecond, hlast]
      rfl

/-- What is carried over twice is carried over at once, up to the label of the new parameter. -/
theorem Composes.carry? (h : third.Composes first second e) (hfirst : first.carry? e = some e')
    (hsecond : second.carry? e' = some e'') :
    third.carry? e =
      some (e''.relabelled second.after third.after.identity third.after.name) := by
  induction e generalizing e' e'' with
  | parameter p =>
      obtain rfl := carry?_parameter.1 hfirst
      obtain rfl := carry?_parameter.1 hsecond
      rw [carry?_parameter, h.parameter_eq]
  | member target field ih =>
      obtain ⟨target', field', htarget', hfield', rfl⟩ := carry?_member.1 hfirst
      obtain ⟨target'', field'', htarget'', hfield'', rfl⟩ := carry?_member.1 hsecond
      refine carry?_member.2 ⟨_, field'', ih (h.child (by simp [Expr.children])) htarget' htarget'',
        ?_, rfl⟩
      rw [field?, Expr.shape?_relabelled,
        h.name target field target' field' (Expr.self_mem_nodes _) htarget' hfield', h.registry.2,
        ← h.registry.1]
      exact hfield''
  | constant value type =>
      obtain rfl := carry?_constant.1 hfirst
      obtain rfl := carry?_constant.1 hsecond
      exact carry?_constant.2 rfl
  | binary op left right ihleft ihright =>
      obtain ⟨left', right', hleft', hright', rfl⟩ := carry?_binary.1 hfirst
      obtain ⟨left'', right'', hleft'', hright'', rfl⟩ := carry?_binary.1 hsecond
      exact carry?_binary.2 ⟨_, _, ihleft (h.child (by simp [Expr.children])) hleft' hleft'',
        ihright (h.child (by simp [Expr.children])) hright' hright'', rfl⟩
  | unary op operand ih =>
      obtain ⟨operand', hoperand', rfl⟩ := carry?_unary.1 hfirst
      obtain ⟨operand'', hoperand'', rfl⟩ := carry?_unary.1 hsecond
      exact carry?_unary.2
        ⟨_, ih (h.child (by simp [Expr.children])) hoperand' hoperand'', rfl⟩
  | call method receiver arguments ihreceiver iharguments =>
      obtain ⟨haccepts, receiver', arguments', hreceiver', harguments', rfl⟩ :=
        carry?_call.1 hfirst
      obtain ⟨_, receiver'', arguments'', hreceiver'', harguments'', rfl⟩ := carry?_call.1 hsecond
      refine carry?_call.2 ⟨haccepts, _, _,
        ihreceiver (h.child (by simp [Expr.children])) hreceiver' hreceiver'', ?_, rfl⟩
      rw [Expr.relabelled_arguments_eq, List.forall₂_map_right_iff]
      refine forall₂_compose_of_mem harguments' harguments'' fun e he e' e'' he' he'' => ?_
      exact iharguments e he (h.child (by simp [Expr.children, he])) he' he''
  | conditional test ifTrue ifFalse ihtest ihtrue ihfalse =>
      obtain ⟨test', ifTrue', ifFalse', htest', htrue', hfalse', rfl⟩ := carry?_conditional.1 hfirst
      obtain ⟨test'', ifTrue'', ifFalse'', htest'', htrue'', hfalse'', rfl⟩ :=
        carry?_conditional.1 hsecond
      exact carry?_conditional.2
        ⟨_, _, _, ihtest (h.child (by simp [Expr.children])) htest' htest'',
          ihtrue (h.child (by simp [Expr.children])) htrue' htrue'',
          ihfalse (h.child (by simp [Expr.children])) hfalse' hfalse'', rfl⟩
  | lambda p body ih =>
      obtain ⟨body', hbody', rfl⟩ := carry?_lambda.1 hfirst
      obtain ⟨body'', hbody'', rfl⟩ := carry?_lambda.1 hsecond
      exact carry?_lambda.2 ⟨_, ih (h.child (by simp [Expr.children])) hbody' hbody'', rfl⟩
  | init shape bindings ih =>
      obtain ⟨bindings', hbindings', rfl⟩ := carry?_init.1 hfirst
      obtain ⟨bindings'', hbindings'', rfl⟩ := carry?_init.1 hsecond
      refine carry?_init.2 ⟨_, ?_, rfl⟩
      rw [Expr.relabelled_bindings_eq, List.forall₂_map_right_iff]
      refine forall₂_compose_of_mem hbindings' hbindings'' fun b hb b' b'' hb' hb'' => ?_
      refine ⟨hb'.1.trans hb''.1, ?_⟩
      exact ih b hb (h.child (List.mem_map_of_mem hb)) hb'.2 hb''.2

end Transfer

/-! ## Composition of conversions -/

/-- `composedPairs registry first second middle fields` pairs the name of each field with the name
that `second` has for the field which `first` finds for it on the middle shape. -/
def composedPairs (registry : Registry) (first second : Options) (middle : String)
    (fields : List FieldDescriptor) : List (String × String) :=
  fields.filterMap fun field =>
    (registry.member? middle (directName registry first field).1).map fun field' =>
      (field.name, (directName registry second field').1)

/-- `composedMap registry first second middle fields` maps each field as `first` and `second` do one
after the other. -/
def composedMap (registry : Registry) (first second : Options) (middle : String)
    (fields : List FieldDescriptor) : MemberMap :=
  .ofPairs (composedPairs registry first second middle fields)

variable {registry : Registry} {first second : Options} {source middle : String}

/-- Fields of one shape have the name that both conversions give them one after the other. -/
theorem directName_composedMap {fields : List FieldDescriptor} {field field' : FieldDescriptor}
    (hsource : ∀ f ∈ fields, f.declaringShape = source) (hfield : field ∈ fields)
    (hfound : registry.member? middle (directName registry first field).1 = some field') :
    (directName registry (composedMap registry first second middle fields).options field).1 =
      (directName registry second field').1 := by
  have hmapped : (composedMap registry first second middle fields).options.mappedName? field.name =
      some (directName registry second field').1 := by
    refine MemberMap.target?_ofPairs ?_ ?_
    · exact List.mem_filterMap.2 ⟨field, hfield, by rw [hfound]; rfl⟩
    · intro other hother
      obtain ⟨f, hf, hpair⟩ := List.mem_filterMap.1 hother
      obtain ⟨f', hf', hpair⟩ := Option.map_eq_some_iff.1 hpair
      rw [Prod.mk.injEq] at hpair
      obtain ⟨hname, rfl⟩ := hpair
      -- a field of the same name is the same field, so that the same is found for it
      have hid : f.id = field.id := by
        rw [FieldDescriptor.id, FieldDescriptor.id, hname, hsource f hf, hsource field hfield]
      rw [directName_congr hid, hfound] at hf'
      rw [Option.some.inj hf']
  rw [directName_of_mapped hmapped]

variable {predicate converted : Predicate} {nextIdentity nextIdentity' : Nat}

/-- Under the composed map, the body is carried over at once where both conversions carry it over
one after the other. -/
theorem composedMap_composes (first second : Options) (destination : String)
    (nextIdentity'' : Nat) (hbuilt : registry.Built)
    (hread : ∀ field ∈ predicate.readFields, field.declaringShape = source)
    (holder : predicate.OlderThan nextIdentity) (hlater : nextIdentity < nextIdentity')
    (hparameter : converted.parameter = rootParameter predicate middle nextIdentity) :
    (bodyTransfer registry
        (composedMap registry first second middle predicate.readFields).options predicate source
        destination nextIdentity'').Composes
      (bodyTransfer registry first predicate source middle nextIdentity)
      (bodyTransfer registry second converted middle destination nextIdentity')
      predicate.body where
  registry := ⟨rfl, rfl⟩
  before := ⟨hparameter, rfl⟩
  type := rfl
  older p hp := holder p (List.mem_cons_of_mem _ hp)
  later := hlater
  name := by
    intro target field target' field' hnode htarget' hfield'
    have hdeclaring : target.isReferenceTo predicate.parameter → field.declaringShape = source :=
      fun htarget => hread field (Predicate.mem_readFields.2 ⟨target, hnode, htarget⟩)
    rcases carried_access hbuilt holder hparameter hnode hdeclaring htarget' hfield' with
      ⟨htarget, htarget'', hname⟩ | ⟨htarget, htarget'', hmiddle, hfound⟩
    · rw [Transfer.name_other htarget, Transfer.name_other htarget'', hname]
    · rw [Transfer.name_direct htarget (hdeclaring htarget),
        Transfer.name_direct htarget'' hmiddle]
      exact directName_composedMap hread (Predicate.mem_readFields.2 ⟨target, hnode, htarget⟩) hfound

variable {reconverted : Predicate} {destination : String} {nextIdentity'' : Nat}
  {clock clock' clock'' : Clock} {scope scope' scope'' : Nat} {cache cache' cache'' : Cache}
  {final final' : State Cache}

/-- Converting a predicate to one shape and the result to another is converting it to the other at
once, under the map that maps the fields read on the parameter as both conversions do. The new
parameters are the same but for their identities. -/
theorem conversions_compose (hbuilt : registry.Built) (hranges : predicate.RangesOver source)
    (hlambda : ∀ p body, .lambda p body ∈ predicate.body.nodes → p.shape? ≠ some middle)
    (hread : ∀ field ∈ predicate.readFields, field.declaringShape = source)
    (hcoherent : predicate.Coherent) (holder : predicate.OlderThan nextIdentity)
    (hlater : nextIdentity < nextIdentity') (holder' : predicate.OlderThan nextIdentity'')
    (hmap : first.customMap = none) (hmap' : second.customMap = none)
    (hstrict : first.errorHandling = .throw) (hstrict' : second.errorHandling = .throw)
    (hcache : cache.AgreesWith (registry.table scope))
    (hcache' : cache'.AgreesWith (registry.table scope'))
    (hcache'' : cache''.AgreesWith (registry.table scope''))
    (hconvert : predicate.convert registry first clock scope middle nextIdentity cache =
      (.ok converted, final))
    (hconvert' : converted.convert registry second clock' scope' destination nextIdentity' cache' =
      (.ok reconverted, final')) :
    (predicate.convert registry
        (composedMap registry first second middle predicate.readFields).options clock'' scope''
        destination nextIdentity'' cache'').1 =
      .ok (reconverted.relabelled nextIdentity'' reconverted.parameter.name) := by
  obtain ⟨hsource, _, hparameter, hcarry, hboolean⟩ :=
    (convert_eq_ok_iff hranges hcoherent holder hmap hstrict hcache).1 (congrArg Prod.fst hconvert)
  have hranges' := converted_rangesOver hranges holder hmap hlambda hconvert hparameter hcarry
  have hcoherent' := converted_coherent hcoherent holder hparameter hcarry
  have holderConverted : converted.OlderThan nextIdentity' := fun p hp =>
    Nat.lt_of_lt_of_le (converted_olderThan holder hparameter hcarry p hp) hlater
  obtain ⟨_, hdestination, hparameter', hcarry', hboolean'⟩ :=
    (convert_eq_ok_iff hranges' hcoherent' holderConverted hmap' hstrict' hcache').1
      (congrArg Prod.fst hconvert')
  have hcomposes := composedMap_composes first second destination nextIdentity'' hbuilt hread holder
    hlater hparameter
  have hroot : (⟨nextIdentity'', reconverted.parameter.name, reconverted.parameter.type⟩ :
      Parameter) = rootParameter predicate destination nextIdentity'' := by
    rw [hparameter', rootParameter, hparameter]
    rfl
  refine (convert_eq_ok_iff hranges hcoherent holder' rfl rfl hcache'').2
    ⟨hsource, hdestination, hroot, ?_, ?_⟩
  · have hname := congrArg Parameter.name hroot
    rw [hcomposes.carry? hcarry hcarry', Predicate.relabelled, hname, hparameter']
    rfl
  · intro hwas
    have htwice := hboolean' (hboolean hwas)
    rwa [Predicate.isBoolean, Predicate.relabelled, Expr.resultType_relabelled]

end Conversion

/-! ## Summaries of views -/

namespace Sample

/-- `summary` is a shape like `view` in which the amount is a sum. -/
def summary : ShapeDefinition :=
  ⟨"Summary", none, [⟨"Sum", .integer, none⟩, ⟨"Items", .list (.shape "Item"), none⟩]⟩

/-- `summaries` is `registry` with summaries. -/
def summaries : Registry :=
  ⟨registry.shapes ++ [summary.shape], registry.annotations ++ summary.annotations⟩

theorem summaries_built : summaries.Built := by
  have hsummary : registry.register summary = .ok summaries := rfl
  exact .register registry_built hsummary

/-- `toSummary` are the options under which amounts become sums. -/
def toSummary : Options := (MemberMap.ofPairs [("Amount", "Sum")]).options

/-- `largeSummary identity` is the counterpart of `large` over summaries. -/
def largeSummary (identity : Nat) : Predicate :=
  largeOver ⟨identity, some "o", .shape "Summary"⟩ ⟨"Items", .list (.shape "Item"), "Summary"⟩
    ⟨"Sum", .integer, "Summary"⟩

/-- `toView` is the conversion of `large` to views. -/
def toView : Except Error Predicate × State Cache :=
  large.convert summaries .default id 0 "View" 2 (.empty .unbounded)

/-- `viewToSummary` is the conversion of its result to summaries. -/
def viewToSummary : Except Error Predicate × State Cache :=
  largeView.convert summaries toSummary id 0 "Summary" 3 (.empty .unbounded)

theorem toView_eq : toView = (.ok largeView, toView.2) := rfl

theorem viewToSummary_eq : viewToSummary = (.ok (largeSummary 3), viewToSummary.2) := rfl

end Sample

/-- Orders become views by annotation, and views summaries by a member map. At once, totals become
sums. -/
theorem sample_compose :
    Sample.toView.1 = .ok Sample.largeView ∧
      Sample.viewToSummary.1 = .ok (Sample.largeSummary 3) ∧
      (Sample.large.convert Sample.summaries
        (MemberMap.options ⟨[("Items", "Items"), ("Total", "Sum")]⟩) id 0 "Summary" 5
        (.empty .unbounded)).1 = .ok (Sample.largeSummary 5) := by
  have hlambda : ∀ p body, .lambda p body ∈ Sample.large.body.nodes → p.shape? ≠ some "View" := by
    intro p body hnode
    rw [Sample.large_lambda hnode]
    decide
  have hread : ∀ field ∈ Sample.large.readFields, field.declaringShape = "Order" := by decide
  have holder : Sample.large.OlderThan 5 := by
    unfold Predicate.OlderThan
    decide
  have hmap : composedMap Sample.summaries .default Sample.toSummary "View"
      Sample.large.readFields = ⟨[("Items", "Items"), ("Total", "Sum")]⟩ := by decide
  have hcomposed : (Sample.large.convert Sample.summaries
      (composedMap Sample.summaries .default Sample.toSummary "View"
        Sample.large.readFields).options id 0 "Summary" 5 (.empty .unbounded)).1 =
      .ok ((Sample.largeSummary 3).relabelled 5 (some "o")) :=
    conversions_compose Sample.summaries_built Sample.large_readsFieldsOf.rangesOver hlambda
      hread Sample.large_coherent Sample.large_olderThan (by decide) holder rfl rfl rfl rfl
      (Cache.empty_agreesWith _ _) (Cache.empty_agreesWith _ _) (Cache.empty_agreesWith _ _)
      Sample.toView_eq Sample.viewToSummary_eq
  rw [hmap] at hcomposed
  exact ⟨rfl, rfl, hcomposed⟩

end Reshape
