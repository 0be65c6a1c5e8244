import Mathlib.Data.List.Nodup
import Reshape.Conversion.Mapping
import Reshape.Proofs.Conversion.Strict
import Reshape.Proofs.Elementwise
import Reshape.Proofs.Entries

/-!
# Mapping lambdas and member maps

A mapping lambda says twice how records go from one shape to another: by the record that its
initializer makes of a record, and by the member map that is read off it. The two agree. What the
map maps has the same value in both records, and a predicate that only reads what the map maps has
the same outcome on the one record as its counterpart under the map has on the other:
`mapping_agrees`.
-/

namespace Reshape

open Conversion Evaluation

namespace Evaluation

variable {environment : Environment} {fields fields' : List (String × Value)}
  {bindings : List (String × Expr)}

/-! ## Initializers -/

/-- Bindings set the values of what they bind one after the other. -/
theorem evaluateBindings_eq_ok :
    evaluateBindings environment fields bindings = .ok fields' ↔
      ∃ values : List (String × Value),
        List.Forall₂ (fun b v => b.1 = v.1 ∧ evaluate environment b.2 = .ok v.2) bindings values ∧
        values.foldl (fun entries pair => Entries.put pair.1 pair.2 entries) fields = fields' := by
  induction bindings generalizing fields with
  | nil => simp [evaluateBindings]
  | cons binding rest ih =>
      simp only [evaluateBindings, except_bind_eq_ok, ih, List.forall₂_cons_left_iff]
      constructor
      · rintro ⟨value, hvalue, values, hvalues, rfl⟩
        exact ⟨_, ⟨(binding.1, value), values, ⟨rfl, hvalue⟩, hvalues, rfl⟩, rfl⟩
      · rintro ⟨_, ⟨⟨_, value⟩, values, ⟨rfl, hvalue⟩, hvalues, rfl⟩, rfl⟩
        exact ⟨value, hvalue, values, hvalues, rfl⟩

/-- When no name is bound twice, each has the value of what it is bound to. -/
theorem lookup_of_binding (h : evaluateBindings environment [] bindings = .ok fields')
    (hnodup : (bindings.map Prod.fst).Nodup) {b : String × Expr} (hb : b ∈ bindings) :
    ∃ value, evaluate environment b.2 = .ok value ∧ fields'.lookup b.1 = some value := by
  obtain ⟨values, hvalues, rfl⟩ := evaluateBindings_eq_ok.1 h
  obtain ⟨v, hv, hname, hvalue⟩ := exists_right_of_forall₂ hvalues hb
  refine ⟨v.2, hvalue, ?_⟩
  have hlast : values.reverse.lookup b.1 = some v.2 := by
    refine Entries.lookup_of_mem ?_ ?_
    · rw [hname]
      exact List.mem_reverse.2 hv
    · intro other hother
      obtain ⟨b', hb', hname', hvalue'⟩ :=
        exists_left_of_forall₂ hvalues (List.mem_reverse.1 hother)
      obtain rfl := List.inj_on_of_nodup_map hnodup hb' hb hname'
      exact Except.ok.inj (hvalue'.symm.trans hvalue)
  rw [Entries.lookup_foldl_put, hlast]
  rfl

end Evaluation

/-! ## Entries of the map -/

/-- A binding stands for an entry when it binds a field of the source shape that is read on a
parameter. -/
theorem MemberMap.ofBinding?_eq_some {source : Option String} {b : String × Expr}
    {entry : String × String} :
    ofBinding? source b = some entry ↔
      ∃ p field, b.2 = .member (.parameter p) field ∧ source = some field.declaringShape ∧
        (field.name, b.1) = entry := by
  rw [ofBinding?]
  split
  · rename_i p field hvalue
    rw [Option.ite_none_right_eq_some, Option.some.injEq]
    constructor
    · rintro ⟨hsource, hentry⟩
      exact ⟨p, field, hvalue, hsource, hentry⟩
    · rintro ⟨q, field', hvalue', hsource, hentry⟩
      rw [hvalue, Expr.member.injEq] at hvalue'
      obtain ⟨_, rfl⟩ := hvalue'
      exact ⟨hsource, hentry⟩
  · rename_i hother
    constructor
    · intro h
      cases h
    · rintro ⟨p, field, hvalue, _, _⟩
      exact (hother p field hvalue).elim

section

variable {parameter : Parameter} {source destination : String}
  {bindings : List (String × Expr)} {fields fields' : List (String × Value)}

/-- What an entry of the map maps has one value: under the name that it is mapped to in the record
that is made, and under its own in the record that it is made of. -/
theorem lookup_of_entry (hnodup : (bindings.map Prod.fst).Nodup)
    (hclosed : (Expr.init destination bindings).ClosedIn [parameter])
    (hevaluate : evaluate [(parameter, .record source fields)] (.init destination bindings) =
      .ok (.record destination fields')) {entry : String × String}
    (hentry : entry ∈ (MemberMap.ofPairs
      (bindings.filterMap (MemberMap.ofBinding? parameter.shape?))).entries) :
    fields'.lookup entry.2 = fields.lookup entry.1 := by
  obtain ⟨b, hb, hbinding⟩ := List.mem_filterMap.1 (MemberMap.mem_of_mem_ofPairs hentry)
  obtain ⟨p, field, hvalue, _, rfl⟩ := MemberMap.ofBinding?_eq_some.1 hbinding
  -- the parameter that is read is the lambda's own, which is bound to the record
  have haccess := (Expr.closedIn_parts rfl).1 hclosed b.2 (List.mem_map_of_mem hb)
  rw [hvalue] at haccess
  obtain ⟨q, hq, hdenotes⟩ := Expr.closedIn_parameter.1
    ((Expr.closedIn_parts rfl).1 haccess (.parameter p) (by simp [Expr.children]))
  obtain rfl := List.mem_singleton.1 hq
  have hbound : evaluate [(q, .record source fields)] (.parameter p) =
      .ok (.record source fields) := by
    rw [evaluate, lookup, List.find?_cons, hdenotes]
  rw [evaluate, except_bind_eq_ok] at hevaluate
  obtain ⟨made, hmade, heq⟩ := hevaluate
  cases heq
  obtain ⟨value, hread, hlookup⟩ := lookup_of_binding hmade hnodup hb
  rw [hvalue, evaluate_member_of_ok hbound, fieldOf] at hread
  show fields'.lookup b.1 = fields.lookup field.name
  cases hfound : fields.lookup field.name with
  | none =>
      rw [hfound] at hread
      cases hread
  | some found =>
      rw [hfound] at hread
      cases hread
      exact hlookup

/-! ## Predicates under the map -/

variable {registry : Registry} {map : MemberMap} {clock : Clock} {scope nextIdentity : Nat}
  {cache : Cache} {predicate converted : Predicate} {final : State Cache}

/-- Records that agree on what a map maps agree on what a predicate reads, if it only reads what the
map maps and is converted under the map. -/
theorem fieldsAgree_of_entries (hreads : predicate.ReadsFieldsOf source)
    (hkeys : ∀ field ∈ predicate.readFields, (map.target? field.name).isSome)
    (hentries : ∀ entry ∈ map.entries, fields'.lookup entry.2 = fields.lookup entry.1)
    (hcarry : (bodyTransfer registry map.options predicate source destination nextIdentity).carry?
      predicate.body = some converted.body) :
    FieldsAgree registry map.options destination predicate.parameter fields fields'
      predicate.body := by
  intro target field hnode htarget
  obtain ⟨name, hname⟩ := Option.isSome_iff_exists.1
    (hkeys field (Predicate.mem_readFields.2 ⟨target, hnode, htarget⟩))
  have hmapped : map.options.mappedName? field.name = some name := hname
  -- the access was carried over, so that the destination shape has a field of that name
  obtain ⟨node', hnode'⟩ := Transfer.exists_carry?_node hcarry hnode
  obtain ⟨target', field', htarget', hfield', _⟩ := Transfer.carry?_member.1 hnode'
  obtain rfl := Option.some.inj ((Transfer.carry?_reference htarget).symm.trans htarget')
  obtain ⟨_, found, he, hdeclaring⟩ := hreads.read _ hnode target (by simp [Expr.children]) htarget
  cases he
  rw [Transfer.field?_direct htarget hdeclaring] at hfield'
  have hsome : (registry.member? destination (directName registry map.options field).1).isSome :=
    Option.isSome_iff_exists.2 ⟨field', hfield'⟩
  rw [if_pos hsome, directName_of_mapped hmapped]
  exact hentries (field.name, name) (Entries.mem_of_lookup hname)

/-- A mapping lambda and the member map that is read off it agree. Whenever its initializer makes a
record of the destination shape of a record of the source shape, what the map maps has one value in
both, and a predicate that only reads what the map maps has the same outcome on the one as its
counterpart under the map on the other. -/
theorem mapping_agrees (hnodup : (bindings.map Prod.fst).Nodup)
    (hclosed : (Expr.init destination bindings).ClosedIn [parameter])
    (hevaluate : evaluate [(parameter, .record source fields)] (.init destination bindings) =
      .ok (.record destination fields')) :
    ∃ map, MemberMap.ofLambda parameter (.init destination bindings) = .ok map ∧
      (∀ entry ∈ map.entries, fields'.lookup entry.2 = fields.lookup entry.1) ∧
      ∀ registry clock scope nextIdentity cache predicate converted final,
        Cache.AgreesWith cache (Registry.table registry scope) →
        Predicate.ReadsFieldsOf source predicate →
        (∀ field ∈ predicate.readFields, (map.target? field.name).isSome) →
        predicate.Coherent → predicate.OlderThan nextIdentity →
        predicate.convert registry map.options clock scope destination nextIdentity cache =
          (.ok converted, final) →
        SameOutcome (predicate.test (.record source fields))
          (converted.test (.record destination fields')) := by
  refine ⟨_, rfl, fun entry => lookup_of_entry hnodup hclosed hevaluate, ?_⟩
  intro registry clock scope nextIdentity cache predicate converted final hcache hreads hkeys
    hcoherent holder hconvert
  obtain ⟨_, _, _, hcarry, _⟩ := (convert_eq_ok_iff hreads.rangesOver hcoherent holder rfl rfl
    hcache).1 (congrArg Prod.fst hconvert)
  have hagree := fieldsAgree_of_entries hreads hkeys
    (fun entry => lookup_of_entry hnodup hclosed hevaluate) hcarry
  have hnone := substitutions_of_strict rfl hcache hconvert
  have hdefaults : DefaultsOnlyOn predicate.parameter final := by
    intro access name searched hevent
    have hmem : (⟨access, name, searched⟩ : Substitution) ∈ final.substitutions :=
      List.mem_filterMap.2 ⟨_, hevent, rfl⟩
    rw [hnone] at hmem
    cases hmem
  obtain ⟨hshape, halike⟩ :=
    converted_alike hreads hcoherent holder rfl hcache hconvert hdefaults hagree
  rw [test_record hreads.shape?, test_record hshape]
  exact halike.sameOutcome.bind_same booleanOf

end

/-! ## Views made of orders -/

namespace Sample

/-- `viewBindings` make a view of an order, without parts. -/
def viewBindings : List (String × Expr) :=
  [("Amount", .member (.parameter parameter) ⟨"Total", .integer, "Order"⟩),
    ("Items", .member (.parameter parameter) ⟨"Items", .list (.shape "Item"), "Order"⟩),
    ("Parts", .constant (.list []) (.list (.shape "Item")))]

/-- `madeFields` are the fields of the view that they make of the order with `orderFields`. -/
def madeFields : List (String × Value) :=
  [("Amount", .integer 3), ("Items", .list [.record "Item" [("Count", .integer 5)]]),
    ("Parts", .list [])]

theorem viewBindings_closed : (Expr.init "View" viewBindings).ClosedIn [parameter] := by
  simp (disch := decide) [viewBindings, parameter, Expr.closedIn_parts, Expr.closedIn_parameter,
    Expr.children, Parameter.denotes]

theorem viewBindings_evaluate :
    evaluate [(parameter, .record "Order" orderFields)] (.init "View" viewBindings) =
      .ok (.record "View" madeFields) := rfl

end Sample

/-- The view that is made of an order has a large item when the order has one. The map that is read
off the bindings maps the total and the items, and skips the parts. -/
theorem sample_mapping :
    MemberMap.ofLambda Sample.parameter (.init "View" Sample.viewBindings) =
        .ok ⟨[("Total", "Amount"), ("Items", "Items")]⟩ ∧
      Sample.large.test (.record "Order" Sample.orderFields) = .ok true ∧
      SameOutcome (Sample.large.test (.record "Order" Sample.orderFields))
        (Sample.largeView.test (.record "View" Sample.madeFields)) := by
  obtain ⟨map, hmap, _, hsame⟩ := mapping_agrees (by decide) Sample.viewBindings_closed
    Sample.viewBindings_evaluate
  obtain rfl : ⟨[("Total", "Amount"), ("Items", "Items")]⟩ = map := Except.ok.inj hmap
  have hkeys : ∀ field ∈ Sample.large.readFields,
      (MemberMap.target? ⟨[("Total", "Amount"), ("Items", "Items")]⟩ field.name).isSome := by
    decide
  refine ⟨rfl, rfl, ?_⟩
  exact hsame Sample.registry id 0 2 (.empty .unbounded) Sample.large Sample.largeView _
    (Cache.empty_agreesWith _ _) Sample.large_readsFieldsOf hkeys Sample.large_coherent
    Sample.large_olderThan rfl

end Reshape
