import Reshape.Entries
import Reshape.Proofs.FieldType.Element
import Reshape.Proofs.Shape.Registration
import Reshape.Proofs.Value.Json
import Reshape.Shape.Record

/-!
# Values of a type

`Registry.Conforms` says which values a type has in a registry: null where the type allows it, lists
of values of the element type, and records that have the fields of their shape, each with a value of
the declared type. What is read from JSON as a value of a type is one (`valueOfJson_conforms`), and
so is a record that is read for a shape (`recordOfJson_conforms`). The default of a type takes the
place of a field that is absent, and is a value of the type as well.

Shapes may mention one another and themselves, so the reading is followed along the JSON and not
along the type.
-/

namespace Reshape

namespace Registry

/-- `registry.Conforms type value` says that `value` is a value of `type`. -/
inductive Conforms (registry : Registry) : FieldType → Value → Prop where
  | null {type : FieldType} : type.isNullable → Conforms registry type .null
  | any (value) : Conforms registry .any value
  | boolean (b) : Conforms registry .boolean (.boolean b)
  | integer (n) : Conforms registry .integer (.integer n)
  | long (n) : Conforms registry .long (.integer n)
  | decimal (d) : Conforms registry .decimal (.decimal d)
  | string (text) : Conforms registry .string (.string text)
  | dateTime (instant) : Conforms registry .dateTime (.dateTime instant)
  | optional {inner value} :
      Conforms registry inner value → Conforms registry (.optional inner) value
  | list {element items} :
      (∀ item ∈ items, Conforms registry element item) →
      Conforms registry (.list element) (.list items)
  | record {shape : Shape} {fields : List (String × Value)} :
      registry.shape? shape.name = some shape →
      shape.fields.map (·.name) = fields.map Prod.fst →
      (∀ name field value, shape.field? name = some field → fields.lookup name = some value →
        Conforms registry field.type value) →
      Conforms registry (.shape shape.name) (.record shape.name fields)

variable {registry : Registry} {type : FieldType} {value : Value} {json : Json}

/-! ## What conforms has -/

/-- A registered shape has the name it is found under. -/
theorem name_of_shape? {name : String} {shape : Shape} (h : registry.shape? name = some shape) :
    shape.name = name := by
  simpa using List.find?_some h

/-- What conforms to the type without question marks conforms to the type. -/
theorem conforms_of_present (h : registry.Conforms type.present value) :
    registry.Conforms type value := by
  induction type with
  | optional inner ih => exact .optional (ih h)
  | _ => exact h

/-- A value of a type that names a shape is null or a record of the shape, which has a conforming
value for each field that is found on the shape. -/
theorem Conforms.record_of_shapeName (h : registry.Conforms type value) {name : String}
    (hname : type.shapeName? = some name) :
    value = .null ∨ ∃ fields, value = .record name fields ∧ ∀ sought field,
      registry.member? name sought = some field →
        ∃ found, fields.lookup sought = some found ∧ registry.Conforms field.type found := by
  induction h with
  | null => exact Or.inl rfl
  | optional _ ih => exact ih hname
  | @record shape fields hshape hnames hfields =>
      obtain rfl : shape.name = name := Option.some.inj hname
      refine Or.inr ⟨fields, rfl, fun sought field hmember => ?_⟩
      obtain ⟨shape', hshape', hfield⟩ := Option.bind_eq_some_iff.1 hmember
      obtain rfl : shape = shape' := Option.some.inj (hshape.symm.trans hshape')
      -- the record has an entry of that name, as the shape has a field of it
      have hmem : sought ∈ fields.map Prod.fst := by
        rw [← hnames, List.mem_map]
        exact ⟨field, List.mem_of_find?_eq_some hfield, by simpa using List.find?_some hfield⟩
      obtain ⟨entry, hentry, hentryName⟩ := List.mem_map.1 hmem
      have hsome : (fields.lookup sought).isSome :=
        List.lookup_isSome_iff.2 ⟨entry, hentry, by simp [hentryName]⟩
      obtain ⟨found, hfound⟩ := Option.isSome_iff_exists.1 hsome
      exact ⟨found, hfound, hfields sought field found hfield hfound⟩
  | _ => cases hname

/-- The items of a value of a list type are values of the element type. -/
theorem Conforms.items {items : List Value} (h : registry.Conforms type (.list items))
    {element : FieldType} (helement : type.element? = some element) :
    ∀ item ∈ items, registry.Conforms element item := by
  generalize hlist : Value.list items = value at h
  induction h with
  | optional _ ih => exact ih helement hlist
  | list hitems =>
      cases hlist
      cases helement
      exact hitems
  | null => cases hlist
  | record => cases hlist
  | _ => cases helement

/-- A type that has a list among its values holds items. -/
theorem Conforms.holdsItems {items : List Value} (h : registry.Conforms type (.list items)) :
    type.holdsItems := by
  generalize hlist : Value.list items = value at h
  induction h with
  | optional _ ih => exact ih hlist
  | list | any => rfl
  | _ => cases hlist

/-- A value of a type that names a shape is a value of the shape. -/
theorem Conforms.of_shapeName (h : registry.Conforms type value) {name : String}
    (hname : type.shapeName? = some name) : registry.Conforms (.shape name) value := by
  induction h with
  | null => exact .null rfl
  | optional _ ih => exact ih hname
  | record hshape hnames hfields =>
      cases hname
      exact .record hshape hnames hfields
  | _ => cases hname

/-! ## What is read -/

/-- The default of a type is a value of it. -/
theorem ofType_conforms (type : FieldType) : registry.Conforms type (Value.ofType type) := by
  cases type with
  | boolean => exact .boolean false
  | integer => exact .integer 0
  | long => exact .long 0
  | decimal => exact .decimal Decimal.zero
  | dateTime => exact .dateTime Instant.earliest
  | _ => exact .null rfl

/-- What is read as a value of a type is one. -/
theorem ofJson_conforms (h : Value.ofJson? type json = .ok value) :
    registry.Conforms type value := by
  induction type generalizing json value with
  | any => exact .any value
  | boolean =>
      cases json with
      | bool b => cases h; exact .boolean b
      | _ => cases h
  | integer =>
      cases json with
      | number number =>
          obtain ⟨n, _, rfl⟩ := Value.orMismatch_map_eq_ok.1 h
          exact .integer n
      | _ => cases h
  | long =>
      cases json with
      | number number =>
          obtain ⟨n, _, rfl⟩ := Value.orMismatch_map_eq_ok.1 h
          exact .long n
      | _ => cases h
  | decimal =>
      cases json with
      | number number =>
          obtain ⟨d, _, rfl⟩ := Value.orMismatch_map_eq_ok.1 h
          exact .decimal d
      | string text =>
          obtain ⟨d, _, rfl⟩ := Value.orMismatch_map_eq_ok.1 h
          exact .decimal d
      | _ => cases h
  | string =>
      cases json with
      | null => cases h; exact .null rfl
      | string text => cases h; exact .string text
      | _ => cases h
  | dateTime =>
      cases json with
      | string text =>
          obtain ⟨instant, _, rfl⟩ := Value.orMismatch_map_eq_ok.1 h
          exact .dateTime instant
      | _ => cases h
  | optional inner ih =>
      rw [Value.ofJson?] at h
      split at h
      · cases h
        exact .null rfl
      · exact .optional (ih h)
  | list element ih =>
      cases json with
      | null => cases h; exact .null rfl
      | array items =>
          rw [Value.ofJson_array] at h
          cases hitems : items.mapM fun item => Value.ofJson? element item with
          | error error => rw [hitems] at h; cases h
          | ok values =>
              rw [hitems] at h
              cases h
              refine .list fun item hitem => ?_
              obtain ⟨_, _, hread⟩ := exists_left_of_forall₂ (mapM_eq_ok.1 hitems) hitem
              exact ih hread
      | _ => cases h
  | shape name =>
      cases json with
      | null => cases h; exact .null rfl
      | _ => cases h

/-- The value found for a field in the results of an object conforms to the type of the field, when
the results conform to the types that the members were read with. -/
theorem fieldValue_conforms {shape : Shape} {results : List (String × Except ValueError Value)}
    (hresults : ∀ name value, (name, .ok value) ∈ results →
      registry.Conforms (memberType shape name) value)
    {field : FieldDescriptor} (hfield : shape.field? field.name = some field)
    (h : fieldValue results field = .ok value) : registry.Conforms field.type value := by
  rw [fieldValue] at h
  split at h
  · rename_i result hresult
    obtain ⟨before, after, rfl, _⟩ := List.lookup_eq_some_iff.1 hresult
    have hconforms := hresults field.name value (by simp [h])
    rwa [memberType, hfield] at hconforms
  · cases h
    exact ofType_conforms _

/-- Where entries go with fields one by one, the entry found under a name goes with the field found
under it. -/
theorem related_of_lookup (related : FieldDescriptor → Value → Prop)
    {fields : List FieldDescriptor} {entries : List (String × Value)}
    (h : List.Forall₂ (fun field entry => entry.1 = field.name ∧ related field entry.2) fields
      entries) {name : String} {field : FieldDescriptor}
    (hfield : (fields.find? fun field => field.name == name) = some field)
    (hvalue : entries.lookup name = some value) : related field value := by
  induction h with
  | nil => cases hfield
  | @cons first entry fields entries hfirst _ ih =>
      obtain ⟨found, value'⟩ := entry
      obtain ⟨rfl, hrelated⟩ := hfirst
      rw [List.find?_cons] at hfield
      rw [Entries.lookup_entry_cons] at hvalue
      by_cases hname : first.name = name
      · simp only [hname, beq_self_eq_true, Option.some.injEq, if_true] at hfield hvalue
        rwa [← hfield, ← hvalue]
      · simp only [beq_false_of_ne hname, if_neg (Ne.symm hname)] at hfield hvalue
        exact ih hfield hvalue

/-- A record is assembled when every member is a field and every field has a value, and it holds
these values in the order of the fields. -/
theorem assemble_eq_ok {shape : Shape} {results : List (String × Except ValueError Value)} :
    assemble shape results = .ok value ↔
      (∀ member ∈ results, shape.hasField member.1) ∧ ∃ entries,
        List.Forall₂ (fun field entry =>
          entry.1 = field.name ∧ fieldValue results field = .ok entry.2) shape.fields entries ∧
        value = .record shape.name entries := by
  rw [assemble]
  split
  · rename_i unknown hunknown
    refine ⟨nofun, fun ⟨hknown, _⟩ => ?_⟩
    have hfield := List.find?_some hunknown
    simp [hknown unknown (List.mem_of_find?_eq_some hunknown)] at hfield
  · rename_i hknown
    have hmembers : ∀ member ∈ results, shape.hasField member.1 := by simpa using hknown
    have hentry (field : FieldDescriptor) (entry : String × Value) :
        (do return (field.name, ← fieldValue results field)) = Except.ok entry ↔
          entry.1 = field.name ∧ fieldValue results field = .ok entry.2 := by
      rw [except_bind_eq_ok]
      constructor
      · rintro ⟨value, hvalue, ⟨⟩⟩
        exact ⟨rfl, hvalue⟩
      · rintro ⟨hname, hvalue⟩
        exact ⟨_, hvalue, congrArg Except.ok (Prod.ext hname.symm rfl)⟩
    simp only [except_bind_eq_ok, mapM_eq_ok, hentry]
    constructor
    · rintro ⟨entries, hentries, ⟨⟩⟩
      exact ⟨hmembers, entries, hentries, rfl⟩
    · rintro ⟨_, entries, hentries, rfl⟩
      exact ⟨entries, hentries, rfl⟩

/-- A record that is assembled from conforming results conforms to the shape. -/
theorem assemble_conforms {shape : Shape} {results : List (String × Except ValueError Value)}
    (hshape : registry.shape? shape.name = some shape)
    (hresults : ∀ name value, (name, .ok value) ∈ results →
      registry.Conforms (memberType shape name) value)
    (h : assemble shape results = .ok value) : registry.Conforms (.shape shape.name) value := by
  obtain ⟨_, entries, hentries, rfl⟩ := assemble_eq_ok.1 h
  have hnames : shape.fields.map (·.name) = entries.map Prod.fst :=
    map_eq_of_forall₂ hentries fun _ _ hentry => hentry.1.symm
  refine .record hshape hnames fun name field value hfield hvalue => ?_
  have hname : field.name = name := by simpa using List.find?_some hfield
  have hread := related_of_lookup (fun field value => fieldValue results field = .ok value)
    hentries hfield hvalue
  exact fieldValue_conforms hresults (by rwa [hname]) hread

mutual

/-- JSON that is read as a value of a type is read as one. -/
theorem valueOfJson_conforms (json : Json) (type : FieldType) {value : Value}
    (h : registry.valueOfJson json type = .ok value) : registry.Conforms type value := by
  cases json with
  | null => exact ofJson_conforms h
  | bool b => exact ofJson_conforms h
  | number number => exact ofJson_conforms h
  | string text => exact ofJson_conforms h
  | array items =>
      rw [valueOfJson] at h
      refine conforms_of_present ?_
      split at h
      · rename_i element hpresent
        obtain ⟨values, hvalues, rfl⟩ := except_map_eq_ok.1 h
        rw [hpresent]
        exact .list (itemsOfJson_conform element items hvalues)
      · exact ofJson_conforms h
  | object members =>
      rw [valueOfJson] at h
      refine conforms_of_present ?_
      split at h
      · rename_i name hpresent
        rw [hpresent]
        split at h
        · rename_i shape hshape
          obtain rfl := name_of_shape? hshape
          exact assemble_conforms hshape (memberResults_conform shape members) h
        · cases h
      · exact ofJson_conforms h

theorem itemsOfJson_conform (element : FieldType) (items : List Json) {values : List Value}
    (h : registry.itemsOfJson element items = .ok values) :
    ∀ value ∈ values, registry.Conforms element value := by
  cases items with
  | nil =>
      cases h
      simp
  | cons item rest =>
      rw [itemsOfJson] at h
      obtain ⟨value, hvalue, h⟩ := except_bind_eq_ok.1 h
      obtain ⟨others, hothers, h⟩ := except_bind_eq_ok.1 h
      cases h
      exact List.forall_mem_cons.2
        ⟨valueOfJson_conforms item element hvalue, itemsOfJson_conform element rest hothers⟩

theorem memberResults_conform (shape : Shape) (members : List (String × Json)) :
    ∀ name value, (name, .ok value) ∈ registry.memberResults shape members →
      registry.Conforms (memberType shape name) value := by
  cases members with
  | nil => simp [memberResults]
  | cons member rest =>
      obtain ⟨name, json⟩ := member
      intro name' value hmem
      rw [memberResults, List.mem_cons] at hmem
      rcases hmem with heq | hmem
      · obtain ⟨rfl, hread⟩ := Prod.mk.inj heq
        exact valueOfJson_conforms json _ hread.symm
      · exact memberResults_conform shape rest name' value hmem

end

/-- A record that is read for a shape is one of the shape. -/
theorem recordOfJson_conforms {shape : String} (h : registry.recordOfJson shape json = .ok value) :
    registry.Conforms (.shape shape) value := by
  rw [recordOfJson] at h
  split at h
  · cases h
  · rename_i found hshape
    obtain rfl := name_of_shape? hshape
    split at h
    · exact assemble_conforms hshape (memberResults_conform found _) h
    · cases h

end Registry

/-! ## An order that is read -/

namespace Sample

/-- `orderJson` is an order with a note and a part that is heavy. -/
def orderJson : Json :=
  .object [("Note", .string "gift"), ("Parts", .array [.object [("Note", .string "heavy")]])]

/-- `orderRecord` is the record of that order, with defaults for the other fields. -/
def orderRecord : Value :=
  .record "Order"
    [("Total", .integer 0), ("Note", .string "gift"), ("Items", .null),
      ("Parts", .list [.record "Order"
        [("Total", .integer 0), ("Note", .string "heavy"), ("Items", .null), ("Parts", .null)]])]

theorem orderRecord_eq : registry.recordOfJson "Order" orderJson = .ok orderRecord := rfl

end Sample

end Reshape
