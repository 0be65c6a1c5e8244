import Reshape.Proofs.Shape.Conformance
import Reshape.Proofs.Shape.Document

/-!
# Records at every level

A record that is read from JSON has the fields of its shape and no others, in the order of the
shape. Each holds a value of its type: the one that the member of its name is read as, or the
default where there is no such member. `Registry.Fills` says so of one object and its record.

Objects stand inside objects and arrays, and are read as records there, some of them of the shape
they are part of. `Registry.Level` says where, and `recordOfJson_fills` that at each of these places
the record is filled in from its object in the same way.
-/

namespace Reshape

namespace Registry

/-- `registry.Fills shape members entries` says that the entries of a record are those of a shape,
filled in from the members of an object. -/
structure Fills (registry : Registry) (shape : Shape) (members : List (String × Json))
    (entries : List (String × Value)) : Prop where
  /-- The object has no members besides the fields. -/
  known : ∀ member ∈ members, shape.hasField member.1
  /-- The entries are the fields in order, with values of their types. -/
  conforms : List.Forall₂ (fun field entry =>
    entry.1 = field.name ∧ registry.Conforms field.type entry.2) shape.fields entries
  /-- A field that the object has is the value of the member. -/
  present : ∀ field ∈ shape.fields, ∀ json, members.lookup field.name = some json →
    ∃ value, registry.valueOfJson json field.type = .ok value ∧
      entries.lookup field.name = some value
  /-- A field that the object lacks is the default of its type. -/
  absent : ∀ field ∈ shape.fields, members.lookup field.name = none →
    entries.lookup field.name = some (Value.ofType field.type)

/-- `registry.Level type json shape members` says that, where `json` is read as a value of `type`,
an object with these members stands in it and is read as a record of `shape`. -/
inductive Level (registry : Registry) :
    FieldType → Json → Shape → List (String × Json) → Prop where
  | object {type shape members} :
      type.present = .shape shape.name → registry.shape? shape.name = some shape →
      Level registry type (.object members) shape members
  | item {type element items json shape members} :
      type.present = .list element → json ∈ items → Level registry element json shape members →
      Level registry type (.array items) shape members
  | field {type outer field outerMembers json shape members} :
      type.present = .shape outer.name → registry.shape? outer.name = some outer →
      field ∈ outer.fields → outerMembers.lookup field.name = some json →
      Level registry field.type json shape members →
      Level registry type (.object outerMembers) shape members

variable {registry : Registry} {type : FieldType} {json : Json} {value : Value} {shape : Shape}
  {members : List (String × Json)} {entries : List (String × Value)}

/-- No two fields of a shape of a loaded registry have the same name. -/
theorem nodup_fields_of_load {document : ModelDocument} (hload : document.load = .ok registry)
    {name : String} (hshape : registry.shape? name = some shape) :
    (shape.fields.map (·.name)).Nodup := by
  obtain ⟨definitions, _, hlists, _⟩ := ModelDocument.load_eq_ok.1 hload
  obtain ⟨definition, hdefinition, _, rfl⟩ := hlists.shape?_eq_some.1 hshape
  rw [ShapeDefinition.shape, List.map_map]
  exact hlists.fields definition hdefinition

/-! ## One object -/

theorem names_memberResults (shape : Shape) (members : List (String × Json)) :
    (registry.memberResults shape members).map Prod.fst = members.map Prod.fst := by
  induction members with
  | nil => rfl
  | cons member rest ih => rw [memberResults, List.map_cons, List.map_cons, ih]

/-- The result for a member is that of reading it with the type of its field. -/
theorem lookup_memberResults (shape : Shape) (members : List (String × Json)) (name : String) :
    (registry.memberResults shape members).lookup name =
      (members.lookup name).map fun json => registry.valueOfJson json (memberType shape name) := by
  induction members with
  | nil => rfl
  | cons member rest ih =>
      obtain ⟨other, json⟩ := member
      rw [memberResults, Entries.lookup_entry_cons, Entries.lookup_entry_cons, ih]
      split
      · rename_i hname
        rw [hname, Option.map_some]
      · rfl

section

variable (hnodup : (shape.fields.map (·.name)).Nodup)
include hnodup

theorem field?_of_mem {field : FieldDescriptor} (hfield : field ∈ shape.fields) :
    shape.field? field.name = some field :=
  (find?_eq_some_of_nodup hnodup).2 ⟨hfield, rfl⟩

/-- A field has the value of the member of its name, and the default where there is none. -/
theorem fieldValue_memberResults {field : FieldDescriptor} (hfield : field ∈ shape.fields) :
    fieldValue (registry.memberResults shape members) field =
      match members.lookup field.name with
      | some json => registry.valueOfJson json field.type
      | none => .ok (Value.ofType field.type) := by
  rw [fieldValue, lookup_memberResults, memberType, field?_of_mem hnodup hfield]
  cases members.lookup field.name with
  | none => rfl
  | some json => rfl

/-- A record that is assembled from the members of an object is filled in from them. -/
theorem fills_of_assemble
    (h : assemble shape (registry.memberResults shape members) = .ok value) :
    ∃ entries, value = .record shape.name entries ∧ registry.Fills shape members entries := by
  obtain ⟨hknown, entries, hentries, rfl⟩ := assemble_eq_ok.1 h
  have hnames : (entries.map Prod.fst).Nodup := by
    rwa [← map_eq_of_forall₂ hentries fun _ _ hentry => hentry.1.symm]
  -- the entry of a field is the one that is found under its name
  have hlookup : ∀ field ∈ shape.fields, ∃ value,
      fieldValue (registry.memberResults shape members) field = .ok value ∧
        entries.lookup field.name = some value := by
    intro field hfield
    obtain ⟨⟨name, value⟩, hentry, rfl, hvalue⟩ := exists_right_of_forall₂ hentries hfield
    exact ⟨value, hvalue, (lookup_eq_some_of_nodup hnames).2 hentry⟩
  refine ⟨entries, rfl, ?known, ?conforms, ?present, ?absent⟩
  case known =>
    intro member hmember
    have hname := List.mem_map_of_mem (f := Prod.fst) hmember
    rw [← names_memberResults shape members] at hname
    obtain ⟨result, hresult, hsame⟩ := List.mem_map.1 hname
    rw [← hsame]
    exact hknown result hresult
  case conforms =>
    refine forall₂_imp_of_mem hentries fun field hfield entry hentry => ⟨hentry.1, ?_⟩
    exact fieldValue_conforms (memberResults_conform shape members) (field?_of_mem hnodup hfield)
      hentry.2
  case present =>
    intro field hfield json hjson
    obtain ⟨value, hvalue, hentry⟩ := hlookup field hfield
    rw [fieldValue_memberResults hnodup hfield, hjson] at hvalue
    exact ⟨value, hvalue, hentry⟩
  case absent =>
    intro field hfield hnone
    obtain ⟨value, hvalue, hentry⟩ := hlookup field hfield
    rw [fieldValue_memberResults hnodup hfield, hnone] at hvalue
    rw [hentry, Except.ok.inj hvalue]

end

/-! ## All objects -/

/-- An object is read as a value of a type that names a shape by assembling a record. -/
theorem valueOfJson_object (htype : type.present = .shape shape.name)
    (hshape : registry.shape? shape.name = some shape) :
    registry.valueOfJson (.object members) type =
      assemble shape (registry.memberResults shape members) := by
  rw [valueOfJson, htype]
  dsimp only
  rw [hshape]

/-- A record is read for a shape that is registered, and from an object. -/
theorem recordOfJson_eq_ok {name : String} :
    registry.recordOfJson name json = .ok value ↔
      ∃ shape members, registry.shape? name = some shape ∧ json = .object members ∧
        assemble shape (registry.memberResults shape members) = .ok value := by
  rw [recordOfJson]
  cases registry.shape? name with
  | none => simp
  | some shape => cases json <;> simp

/-- An array is read as a value of a list type item by item. -/
theorem valueOfJson_array {element : FieldType} {items : List Json}
    (htype : type.present = .list element) :
    registry.valueOfJson (.array items) type =
      (registry.itemsOfJson element items).map .list := by
  rw [valueOfJson, htype]

theorem itemsOfJson_eq (element : FieldType) (items : List Json) :
    registry.itemsOfJson element items =
      items.mapM fun item => registry.valueOfJson item element := by
  induction items with
  | nil => rfl
  | cons item rest ih => rw [itemsOfJson, List.mapM_cons, ih]

/-- Wherever an object is read as a record, the record is filled in from it. -/
theorem Level.fills {document : ModelDocument} (hload : document.load = .ok registry)
    (hlevel : registry.Level type json shape members)
    (h : registry.valueOfJson json type = .ok value) :
    ∃ entries, registry.valueOfJson (.object members) (.shape shape.name) =
        .ok (.record shape.name entries) ∧ registry.Fills shape members entries := by
  induction hlevel generalizing value with
  | @object type shape members htype hshape =>
      rw [valueOfJson_object htype hshape] at h
      obtain ⟨entries, rfl, hfills⟩ := fills_of_assemble (nodup_fields_of_load hload hshape) h
      exact ⟨entries, (valueOfJson_object rfl hshape).trans h, hfills⟩
  | item htype hmem _ ih =>
      rw [valueOfJson_array htype, itemsOfJson_eq] at h
      obtain ⟨values, hvalues, _⟩ := except_map_eq_ok.1 h
      obtain ⟨value, _, hread⟩ := exists_right_of_forall₂ (mapM_eq_ok.1 hvalues) hmem
      exact ih hread
  | field htype hshape hfield hjson _ ih =>
      rw [valueOfJson_object htype hshape] at h
      obtain ⟨_, _, hfills⟩ := fills_of_assemble (nodup_fields_of_load hload hshape) h
      obtain ⟨value, hread, _⟩ := hfills.present _ hfield _ hjson
      exact ih hread

/-- A record that is read for a shape of a loaded registry is filled in from an object, and so is
the record of every object inside it that is read as one. -/
theorem recordOfJson_fills {document : ModelDocument} (hload : document.load = .ok registry)
    {name : String} (h : registry.recordOfJson name json = .ok value) :
    (∃ shape members entries, registry.shape? name = some shape ∧ json = .object members ∧
      value = .record name entries ∧ registry.Fills shape members entries) ∧
      ∀ inner innerMembers, registry.Level (.shape name) json inner innerMembers →
        ∃ entries, registry.valueOfJson (.object innerMembers) (.shape inner.name) =
            .ok (.record inner.name entries) ∧ registry.Fills inner innerMembers entries := by
  obtain ⟨shape, members, hshape, rfl, hassembled⟩ := recordOfJson_eq_ok.1 h
  obtain rfl := name_of_shape? hshape
  obtain ⟨entries, rfl, hfills⟩ := fills_of_assemble (nodup_fields_of_load hload hshape) hassembled
  refine ⟨⟨shape, members, entries, hshape, rfl, rfl, hfills⟩, fun _ _ hlevel => ?_⟩
  exact hlevel.fills hload ((valueOfJson_object rfl hshape).trans hassembled)

end Registry

/-! ## An order and its parts -/

namespace Sample

/-- `partMembers` are the members of the part of `orderJson`. -/
def partMembers : List (String × Json) := [("Note", .string "heavy")]

/-- The part of the order is read as an order. -/
theorem part_level : registry.Level (.shape "Order") orderJson order.shape partMembers := by
  have hparts : ⟨"Parts", .list (.shape "Order"), "Order"⟩ ∈ order.shape.fields := by decide
  have hpart : registry.Level (.shape "Order") (.object partMembers) order.shape partMembers :=
    .object rfl rfl
  exact .field rfl rfl hparts rfl (.item rfl List.mem_cons_self hpart)

/-- An order inside an order lacks a total, and its record has the default. -/
theorem order_filled :
    registry.document.load = .ok registry ∧
      registry.recordOfJson "Order" orderJson = .ok orderRecord ∧
      registry.Level (.shape "Order") orderJson order.shape partMembers ∧
      ∃ entries, registry.Fills order.shape partMembers entries ∧
        entries.lookup "Total" = some (.integer 0) := by
  obtain ⟨_, hlevels⟩ := Registry.recordOfJson_fills load_registry orderRecord_eq
  obtain ⟨entries, _, hfills⟩ := hlevels _ _ part_level
  exact ⟨load_registry, orderRecord_eq, part_level, entries, hfills,
    hfills.absent ⟨"Total", .integer, "Order"⟩ (by decide) rfl⟩

end Sample

end Reshape
