import Reshape.Shape.Registry

/-!
# Registries built by registration

A registry comes about by registering shapes one after the other, starting with none. In such a
registry every shape declares its own fields, so what is found on a shape under a name is a field
of that name which the shape declares.
-/

namespace Reshape

namespace ShapeDefinition

/-- A field of a definition is declared by the shape that is defined. -/
theorem declaringShape_of_mem {definition : ShapeDefinition} {field : FieldDescriptor}
    (h : field ∈ definition.shape.fields) : field.declaringShape = definition.shape.name := by
  obtain ⟨_, _, rfl⟩ := List.mem_map.1 h
  rfl

/-- None is found to be repeated when no name was seen before and the names are distinct. -/
theorem repeatedField?_eq_none_of_seen {fields : List FieldDefinition} (seen : List String) :
    repeatedField? seen fields = none ↔
      (∀ field ∈ fields, field.name ∉ seen) ∧ (fields.map (·.name)).Nodup := by
  induction fields generalizing seen with
  | nil => simp [repeatedField?]
  | cons field rest ih =>
      rw [repeatedField?, List.forall_mem_cons, List.map_cons, List.nodup_cons, List.mem_map]
      by_cases hseen : field.name ∈ seen
      · simp [hseen]
      · rw [if_neg hseen, ih]
        simp only [List.mem_cons, not_or]
        constructor
        · rintro ⟨hrest, hnodup⟩
          refine ⟨⟨hseen, fun other hother => (hrest other hother).2⟩, ?_, hnodup⟩
          rintro ⟨other, hother, hname⟩
          exact (hrest other hother).1 hname
        · rintro ⟨⟨_, hrest⟩, hfield, hnodup⟩
          exact ⟨fun other hother => ⟨fun hname => hfield ⟨other, hother, hname⟩,
            hrest other hother⟩, hnodup⟩

/-- No field is repeated when the names are distinct. -/
theorem repeatedField?_eq_none {fields : List FieldDefinition} :
    repeatedField? [] fields = none ↔ (fields.map (·.name)).Nodup := by
  simpa using repeatedField?_eq_none_of_seen []

end ShapeDefinition

namespace Registry

/-! ## One registration -/

variable {registry next : Registry} {definition : ShapeDefinition}

/-- A registration succeeds when the definition repeats no field and its name is new. It adds the
shape and the annotations after the others. -/
theorem register_eq_ok : registry.register definition = .ok next ↔
    (definition.fields.map (·.name)).Nodup ∧ registry.shape? definition.name = none ∧
      next = ⟨registry.shapes ++ [definition.shape],
        registry.annotations ++ definition.annotations⟩ := by
  rw [← ShapeDefinition.repeatedField?_eq_none, register]
  cases hrepeated : ShapeDefinition.repeatedField? [] definition.fields with
  | some field => simp
  | none =>
      cases hshape : registry.shape? definition.name with
      | some shape => simp
      | none =>
          show Except.ok _ = Except.ok next ↔ _
          rw [Except.ok.injEq, eq_comm]
          simp

/-- A registration that succeeds adds one shape after the others. -/
theorem shapes_of_register (h : registry.register definition = .ok next) :
    next.shapes = registry.shapes ++ [definition.shape] := by
  obtain ⟨_, _, rfl⟩ := register_eq_ok.1 h
  rfl

/-- A registration that succeeds is of a new name, and adds its annotations after the others. -/
theorem annotations_of_register (h : registry.register definition = .ok next) :
    registry.shape? definition.name = none ∧
      next.annotations = registry.annotations ++ definition.annotations := by
  obtain ⟨_, hnew, rfl⟩ := register_eq_ok.1 h
  exact ⟨hnew, rfl⟩

/-- A registered shape is still the same after a registration. -/
theorem shape?_of_register (h : registry.register definition = .ok next) {name : String}
    (hname : (registry.shape? name).isSome) : next.shape? name = registry.shape? name := by
  obtain ⟨shape, hshape⟩ := Option.isSome_iff_exists.1 hname
  rw [hshape, shape?, shapes_of_register h, List.find?_append]
  rw [shape?] at hshape
  rw [hshape, Option.some_or]

/-- Annotations of a registered shape are still the same after a registration. -/
theorem mapsTo?_of_register (h : registry.register definition = .ok next) {field : FieldId}
    (hfield : (registry.shape? field.shape).isSome) :
    next.mapsTo? field = registry.mapsTo? field := by
  obtain ⟨hnew, hannotations⟩ := annotations_of_register h
  -- the annotations that are added are of another shape
  have hnone : definition.annotations.lookup field = none := by
    rw [List.lookup_eq_none_iff]
    intro annotation hannotation
    obtain ⟨definedField, _, hdefined⟩ := List.mem_filterMap.1 hannotation
    obtain ⟨target, _, rfl⟩ := Option.map_eq_some_iff.1 hdefined
    rw [bne_iff_ne]
    rintro rfl
    rw [hnew] at hfield
    cases hfield
  rw [mapsTo?, hannotations, List.lookup_append, hnone, Option.or_none, mapsTo?]

/-! ## Built registries -/

/-- A registry is `Built` when it comes about by registrations that succeed. -/
inductive Built : Registry → Prop where
  | empty : Built Registry.empty
  | register {registry next : Registry} {definition : ShapeDefinition} :
      Built registry → registry.register definition = .ok next → Built next

/-- Every shape of a registry declares its own fields. -/
theorem Built.declaringShape_eq (h : registry.Built) {shape : Shape}
    (hshape : shape ∈ registry.shapes) {field : FieldDescriptor} (hfield : field ∈ shape.fields) :
    field.declaringShape = shape.name := by
  induction h with
  | empty => cases hshape
  | register _ hregister ih =>
      rw [shapes_of_register hregister, List.mem_append, List.mem_singleton] at hshape
      rcases hshape with hshape | rfl
      · exact ih hshape
      · exact ShapeDefinition.declaringShape_of_mem hfield

/-- A field found on a shape is one of the fields of a registered shape of that name. -/
theorem mem_of_member? {shape name : String} {field : FieldDescriptor}
    (h : registry.member? shape name = some field) :
    ∃ found ∈ registry.shapes, found.name = shape ∧ field ∈ found.fields ∧ field.name = name := by
  obtain ⟨found, hfound, hfield⟩ := Option.bind_eq_some_iff.1 h
  refine ⟨found, List.mem_of_find?_eq_some hfound, ?_, List.mem_of_find?_eq_some hfield, ?_⟩
  · simpa using List.find?_some hfound
  · simpa using List.find?_some hfield

end Registry

/-! ## Orders and views of them -/

namespace Sample

/-- `order` is a shape whose parts are of the same shape, with an annotated field. -/
def order : ShapeDefinition :=
  ⟨"Order", none,
    [⟨"Total", .integer, some "Amount"⟩, ⟨"Note", .string, none⟩,
      ⟨"Items", .list (.shape "Item"), none⟩, ⟨"Parts", .list (.shape "Order"), none⟩]⟩

/-- `view` is a shape like `order` that has no notes and only items as parts. -/
def view : ShapeDefinition :=
  ⟨"View", some "Shop",
    [⟨"Amount", .integer, none⟩, ⟨"Items", .list (.shape "Item"), none⟩,
      ⟨"Parts", .list (.shape "Item"), none⟩]⟩

/-- `item` is the shape of the items of both. -/
def item : ShapeDefinition :=
  ⟨"Item", none, [⟨"Note", .string, none⟩, ⟨"Count", .integer, none⟩]⟩

/-- `gift` is a shape that holds an order. -/
def gift : ShapeDefinition :=
  ⟨"Gift", none, [⟨"Content", .shape "Order", some "Wrapped"⟩]⟩

/-- `registry` has the shapes of orders, views and items. -/
def registry : Registry := ⟨[order.shape, view.shape, item.shape], order.annotations⟩

theorem registry_built : registry.Built := by
  have horder : Registry.empty.register order = .ok ⟨[order.shape], order.annotations⟩ := rfl
  have hview : Registry.register ⟨[order.shape], order.annotations⟩ view =
      .ok ⟨[order.shape, view.shape], order.annotations⟩ := rfl
  have hitem : Registry.register ⟨[order.shape, view.shape], order.annotations⟩ item =
      .ok registry := rfl
  exact .register (.register (.register .empty horder) hview) hitem

end Sample

end Reshape
