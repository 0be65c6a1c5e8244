import Reshape.Proofs.Entries
import Reshape.Proofs.Shape.Levels

/-!
# Records that are read back

The JSON of a record has its fields as members, sorted by name. A record whose fields hold neither
decimals nor points in time is read from it again, down to the order of the fields at every depth
(`recordOfJson_toJson`): JSON writes all other values without loss. What may stand in the fields is
told by the types that are reached from the shape (`Registry.Reaches`), through lists, optional
types and shapes that mention each other.
-/

namespace Reshape

/-! ## Sorted members -/

namespace Json

/-- A member that is inserted is found under its name, and all others as before. -/
theorem lookup_insertMember (name sought : String) (value : Json) (members : List (String × Json)) :
    (insertMember name value members).lookup sought =
      if sought = name then some value else members.lookup sought := by
  induction members with
  | nil => exact Entries.lookup_entry_cons name sought value []
  | cons member rest ih =>
      obtain ⟨other, old⟩ := member
      rw [insertMember]
      split
      · exact Entries.lookup_entry_cons name sought value _
      · split
        · rename_i hsame
          rw [Entries.lookup_entry_cons, Entries.lookup_entry_cons, hsame]
          split
          · rfl
          · rfl
        · rename_i hother
          rw [Entries.lookup_entry_cons, Entries.lookup_entry_cons, ih]
          by_cases hfound : sought = other
          · rw [if_pos hfound, if_pos hfound, if_neg fun hname => hother (hname.symm.trans hfound)]
          · rw [if_neg hfound, if_neg hfound]

/-- Of members that are sorted, the last of a name is found under it. -/
theorem lookup_sortMembers (members : List (String × Json)) (sought : String) :
    (sortMembers members).lookup sought = members.reverse.lookup sought := by
  rw [sortMembers, Entries.lookup_foldl lookup_insertMember, List.lookup_nil, Option.or_none]

variable {name : String} {value : Json} {members : List (String × Json)}

/-- Sorting keeps a member whose name is given once. -/
theorem lookup_sortMembers_of_nodup (hnodup : (members.map Prod.fst).Nodup)
    (h : (name, value) ∈ members) : (sortMembers members).lookup name = some value := by
  have hreverse : (members.reverse.map Prod.fst).Nodup := by
    rwa [List.map_reverse, List.nodup_reverse]
  rw [lookup_sortMembers, lookup_eq_some_of_nodup hreverse, List.mem_reverse]
  exact h

/-- Sorting adds no names. -/
theorem name_mem_of_sortMembers {member : String × Json} (h : member ∈ sortMembers members) :
    member.1 ∈ members.map Prod.fst := by
  have hfound : ((sortMembers members).lookup member.1).isSome :=
    List.lookup_isSome_iff.2 ⟨member, h, beq_self_eq_true _⟩
  rw [lookup_sortMembers] at hfound
  obtain ⟨other, hother, hname⟩ := List.lookup_isSome_iff.1 hfound
  exact List.mem_map.2 ⟨other, List.mem_reverse.1 hother, (eq_of_beq hname).symm⟩

end Json

/-- The fields of a record are written one by one. -/
theorem Value.toJsonMembers_eq (fields : List (String × Value)) :
    toJsonMembers fields = fields.map fun entry => (entry.1, entry.2.toJson) := by
  induction fields with
  | nil => rfl
  | cons entry rest ih => rw [toJsonMembers, ih, List.map_cons]

namespace Registry

/-- `registry.Reaches type other` says that values of `type` may hold values of type `other`, as
items or in fields at some depth, or are such values. -/
inductive Reaches (registry : Registry) : FieldType → FieldType → Prop where
  | refl (type : FieldType) : Reaches registry type type
  | optional {inner other : FieldType} :
      Reaches registry inner other → Reaches registry (.optional inner) other
  | list {element other : FieldType} :
      Reaches registry element other → Reaches registry (.list element) other
  | field {shape : Shape} {field : FieldDescriptor} {other : FieldType} :
      registry.shape? shape.name = some shape → field ∈ shape.fields →
      Reaches registry field.type other → Reaches registry (.shape shape.name) other

/-- `registry.Lossless type` says that JSON writes values of `type` without loss: they hold neither
decimals nor points in time, and nothing whose type is left open. -/
def Lossless (registry : Registry) (type : FieldType) : Prop :=
  ∀ other, registry.Reaches type other → other ≠ .any ∧ other ≠ .decimal ∧ other ≠ .dateTime

variable {registry : Registry} {type inner : FieldType} {json : Json} {value : Value}

/-! ## Values that are read back -/

/-- Null is read as null, if it is read. -/
theorem eq_null_of_ofJson (h : Value.ofJson? type .null = .ok value) : value = .null := by
  cases type with
  | boolean | integer | long | decimal | dateTime => cases h
  | any | string | optional | list | shape =>
      cases h
      rfl

/-- What is read as a value of a type is read as a value of the optional type. -/
theorem valueOfJson_optional (h : registry.valueOfJson json inner = .ok value) :
    registry.valueOfJson json (.optional inner) = .ok value := by
  cases json with
  | null =>
      rw [eq_null_of_ofJson h]
      rfl
  | object members => exact h
  | array items => exact h
  | bool b => exact h
  | number number => exact h
  | string text => exact h

/-- The entries of a record are read back from its members when the values are. -/
theorem assemble_toJson {shape : Shape} {entries : List (String × Value)}
    (hnodup : (shape.fields.map (·.name)).Nodup)
    (hnames : shape.fields.map (·.name) = entries.map Prod.fst)
    (hvalues : ∀ field ∈ shape.fields, ∀ value, entries.lookup field.name = some value →
      registry.valueOfJson value.toJson field.type = .ok value) :
    assemble shape (registry.memberResults shape
      (Json.sortMembers (Value.toJsonMembers entries))) = .ok (.record shape.name entries) := by
  have hentries : (entries.map Prod.fst).Nodup := hnames ▸ hnodup
  have hmembers : (Value.toJsonMembers entries).map Prod.fst = entries.map Prod.fst := by
    rw [Value.toJsonMembers_eq, List.map_map]
    rfl
  have hsame : List.Forall₂ (fun field entry => entry.1 = field.name) shape.fields entries := by
    rw [← List.forall₂_eq_eq_eq, List.forall₂_map_left_iff, List.forall₂_map_right_iff] at hnames
    exact hnames.imp fun _ _ hname => hname.symm
  refine assemble_eq_ok.2 ⟨?known, entries, ?entries, rfl⟩
  case known =>
    intro result hresult
    have hname := List.mem_map_of_mem (f := Prod.fst) hresult
    rw [names_memberResults] at hname
    obtain ⟨member, hmember, hresultName⟩ := List.mem_map.1 hname
    have hfield := Json.name_mem_of_sortMembers hmember
    rw [hmembers, ← hnames, hresultName] at hfield
    obtain ⟨field, hfield, hfieldName⟩ := List.mem_map.1 hfield
    rw [← hfieldName, Shape.hasField, field?_of_mem hnodup hfield, Option.isSome_some]
  case entries =>
    refine List.forall₂_iff_zip.2 ⟨hsame.length_eq, fun {field entry} hmem => ?_⟩
    obtain ⟨hfield, hentry⟩ := List.of_mem_zip hmem
    have hname := List.forall₂_zip hsame hmem
    refine ⟨hname, ?_⟩
    have hjson : (Json.sortMembers (Value.toJsonMembers entries)).lookup field.name =
        some entry.2.toJson := by
      refine Json.lookup_sortMembers_of_nodup (hmembers ▸ hentries) ?_
      rw [Value.toJsonMembers_eq, ← hname]
      exact List.mem_map_of_mem hentry
    rw [fieldValue_memberResults hnodup hfield, hjson]
    exact hvalues field hfield entry.2 ((lookup_eq_some_of_nodup hentries).2 (hname ▸ hentry))

/-- A value of a type that JSON writes without loss is read from its JSON again. -/
theorem Conforms.valueOfJson_toJson {document : ModelDocument}
    (hload : document.load = .ok registry) (h : registry.Conforms type value)
    (hlossless : registry.Lossless type) : registry.valueOfJson value.toJson type = .ok value := by
  induction h with
  | null hnullable =>
      show Value.ofJson? _ .null = _
      rw [Value.ofJson?.eq_def, if_pos (by simpa [Json.isNull] using hnullable)]
  | any value => exact absurd rfl (hlossless _ (.refl _)).1
  | boolean b => rfl
  | integer n => exact Value.ofJson_integer_toJson n fun _ => rfl
  | long n => exact Value.ofJson_integer_toJson n fun _ => rfl
  | decimal d => exact absurd rfl (hlossless _ (.refl _)).2.1
  | string text => rfl
  | dateTime instant => exact absurd rfl (hlossless _ (.refl _)).2.2
  | optional _ ih =>
      exact valueOfJson_optional (ih fun other hother => hlossless other (.optional hother))
  | list _ ih =>
      rw [Value.toJson, Value.toJsonItems_eq, valueOfJson_array rfl, itemsOfJson_eq, mapM_map_eq_ok]
      · rfl
      · exact fun item hitem => ih item hitem fun other hother => hlossless other (.list hother)
  | record hshape hnames hfields ih =>
      rw [Value.toJson, valueOfJson_object rfl hshape]
      refine assemble_toJson (nodup_fields_of_load hload hshape) hnames ?_
      intro field hfield value hvalue
      refine ih _ field value (field?_of_mem (nodup_fields_of_load hload hshape) hfield) hvalue ?_
      exact fun other hother => hlossless other (.field hshape hfield hother)

/-- A record of a shape from which neither decimals nor points in time are reached is read from its
JSON again, with the same fields in the same order at every depth. -/
theorem recordOfJson_toJson {document : ModelDocument} (hload : document.load = .ok registry)
    {name : String} (hlossless : registry.Lossless (.shape name))
    (h : registry.recordOfJson name json = .ok value) :
    registry.recordOfJson name value.toJson = .ok value := by
  have hconforms := recordOfJson_conforms h
  obtain ⟨shape, _, hshape, rfl, hassembled⟩ := recordOfJson_eq_ok.1 h
  obtain rfl := name_of_shape? hshape
  obtain ⟨_, entries, _, rfl⟩ := assemble_eq_ok.1 hassembled
  have hread := hconforms.valueOfJson_toJson hload hlossless
  rw [Value.toJson, valueOfJson_object rfl hshape] at hread
  exact recordOfJson_eq_ok.2 ⟨shape, _, hshape, rfl, hread⟩

end Registry

/-! ## An order that is read back -/

namespace Sample

/-- `orderTypes` are the types that are reached from an order. -/
def orderTypes : List FieldType :=
  [.integer, .string, .shape "Item", .shape "Order", .list (.shape "Item"), .list (.shape "Order")]

theorem orderTypes_of_fields {shape : Shape} (hshape : registry.shape? shape.name = some shape)
    (hname : shape.name = "Item" ∨ shape.name = "Order") {field : FieldDescriptor}
    (hfield : field ∈ shape.fields) : field.type ∈ orderTypes := by
  rcases hname with hname | hname
  · rw [hname] at hshape
    obtain rfl : item.shape = shape := Option.some.inj hshape
    revert field
    decide
  · rw [hname] at hshape
    obtain rfl : order.shape = shape := Option.some.inj hshape
    revert field
    decide

theorem orderTypes_of_reaches {type other : FieldType} (h : registry.Reaches type other)
    (htype : type ∈ orderTypes) : other ∈ orderTypes := by
  induction h with
  | refl => exact htype
  | optional => simp [orderTypes] at htype
  | list _ ih =>
      refine ih ?_
      simp only [orderTypes, List.mem_cons, FieldType.list.injEq, reduceCtorEq, List.not_mem_nil,
        false_or, or_false] at htype
      rcases htype with rfl | rfl <;> decide
  | field hshape hfield _ ih =>
      refine ih (orderTypes_of_fields hshape ?_ hfield)
      simpa [orderTypes] using htype

/-- An order holds neither decimals nor points in time, although it holds orders. -/
theorem order_lossless : registry.Lossless (.shape "Order") := by
  have hplain : ∀ type ∈ orderTypes, type ≠ .any ∧ type ≠ .decimal ∧ type ≠ .dateTime := by decide
  exact fun other hother => hplain other (orderTypes_of_reaches hother (by decide))

/-- The record of an order inside which there is an order is read from its JSON again. -/
theorem order_reread :
    registry.document.load = .ok registry ∧ registry.Lossless (.shape "Order") ∧
      registry.recordOfJson "Order" orderJson = .ok orderRecord ∧
      registry.recordOfJson "Order" orderRecord.toJson = .ok orderRecord :=
  ⟨load_registry, order_lossless, orderRecord_eq,
    Registry.recordOfJson_toJson load_registry order_lossless orderRecord_eq⟩

end Sample

end Reshape
