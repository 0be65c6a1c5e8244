import Reshape.Proofs.FieldType.Element
import Reshape.Proofs.FieldType.Text
import Reshape.Proofs.Shape.History
import Reshape.Shape.Document

/-!
# Documents that load

A model document loads exactly when it is well formed (`ModelDocument.WellFormed`): no name is
given twice to a shape, or to a field of one shape, every type is written as one, and every shape
that a type mentions is a shape of the document, be it before, after or the same. The registry that
it loads to lists what the document describes, and the document that is written of the registry
describes the same: `load_iff_and_reload`.
-/

namespace Reshape

/-! ## What documents describe -/

/-- `document.Describes definition` says that a field document is of a field. -/
structure FieldDocument.Describes (document : FieldDocument) (definition : FieldDefinition) :
    Prop where
  name : document.name = definition.name
  type : FieldType.read? document.type = .ok definition.type
  mapsTo : document.mapsTo = definition.mapsTo

/-- `document.Describes definition` says that a shape document is of a shape, field by field. -/
structure ShapeDocument.Describes (document : ShapeDocument) (definition : ShapeDefinition) :
    Prop where
  name : document.name = definition.name
  qualifier : document.qualifier = definition.qualifier
  fields : List.Forall₂ FieldDocument.Describes document.fields definition.fields

namespace ModelDocument

/-- A field is defined by a document that describes it. -/
theorem fieldDefinition_eq_ok {shape : String} {document : FieldDocument}
    {definition : FieldDefinition} :
    fieldDefinition shape document = .ok definition ↔ document.Describes definition := by
  rw [fieldDefinition]
  constructor
  · intro h
    split at h
    · rename_i type htype
      cases h
      exact ⟨rfl, htype, rfl⟩
    · cases h
  · rintro ⟨hname, htype, hmapsTo⟩
    rw [htype, hname, hmapsTo]

theorem shapeDefinition_eq_ok {document : ShapeDocument} {definition : ShapeDefinition} :
    shapeDefinition document = .ok definition ↔ document.Describes definition := by
  rw [shapeDefinition]
  simp only [except_bind_eq_ok, mapM_eq_ok, fieldDefinition_eq_ok]
  constructor
  · rintro ⟨fields, hfields, h⟩
    cases h
    exact ⟨rfl, rfl, hfields⟩
  · rintro ⟨hname, hqualifier, hfields⟩
    exact ⟨_, hfields, by rw [hname, hqualifier]; rfl⟩

/-- Registering the shapes of some documents succeeds when the registry lists the definitions that
they describe after it, behind the others. -/
theorem registerAll_eq_ok {registry next : Registry} {definitions : List ShapeDefinition}
    {documents : List ShapeDocument} (h : registry.Lists definitions) :
    registerAll registry documents = .ok next ↔
      ∃ described, List.Forall₂ ShapeDocument.Describes documents described ∧
        next.Lists (definitions ++ described) := by
  induction documents generalizing registry definitions with
  | nil =>
      simp only [registerAll, List.forall₂_nil_left_iff, exists_eq_left, List.append_nil]
      constructor
      · rintro ⟨⟩
        exact h
      · intro hnext
        rw [h.unique hnext]
  | cons document rest ih =>
      simp only [registerAll, except_bind_eq_ok, shapeDefinition_eq_ok]
      constructor
      · rintro ⟨definition, hdefinition, middle, hmiddle, hrest⟩
        obtain ⟨described, hdescribed, hnext⟩ := (ih (h.register_iff.1 hmiddle)).1 hrest
        rw [List.append_assoc] at hnext
        exact ⟨definition :: described, .cons hdefinition hdescribed, hnext⟩
      · rintro ⟨_, _ | ⟨hdefinition, hdescribed⟩, hnext⟩
        rw [List.append_cons] at hnext
        exact ⟨_, hdefinition, _, h.register_iff.2 hnext.front,
          (ih hnext.front).2 ⟨_, hdescribed, hnext⟩⟩

variable {document : ModelDocument} {registry : Registry}

/-- A document loads to the registry that lists what it describes, if the references are right. -/
theorem load_eq_ok : document.load = .ok registry ↔
    ∃ definitions, List.Forall₂ ShapeDocument.Describes document.shapes definitions ∧
      registry.Lists definitions ∧ registry.checkReferences = .ok () := by
  rw [load]
  simp only [except_bind_eq_ok, registerAll_eq_ok Registry.Lists.empty, List.nil_append]
  constructor
  · rintro ⟨_, ⟨definitions, hdescribes, hlists⟩, _, hreferences, h⟩
    cases h
    exact ⟨definitions, hdescribes, hlists, hreferences⟩
  · rintro ⟨definitions, hdescribes, hlists, hreferences⟩
    exact ⟨registry, ⟨definitions, hdescribes, hlists⟩, (), hreferences, rfl⟩

end ModelDocument

/-- The references are right when every shape that the type of a field mentions is registered. -/
theorem Registry.checkReferences_eq_ok {registry : Registry} {definitions : List ShapeDefinition}
    (h : registry.Lists definitions) : registry.checkReferences = .ok () ↔
      ∀ definition ∈ definitions, ∀ field ∈ definition.fields, ∀ name, field.type.Mentions name →
        name ∈ definitions.map (·.name) := by
  have hdangling (field : FieldDescriptor) : registry.dangling? field = none ↔
      ∀ name, field.type.Mentions name → name ∈ definitions.map (·.name) := by
    simp only [dangling?, Option.filter_eq_none_iff, FieldType.mentions_iff,
      Option.isNone_iff_eq_none, shape?_eq_none, h.shapeNames_eq, not_not]
  have hchecks : registry.checkReferences = .ok () ↔
      ∀ field ∈ registry.shapes.flatMap (·.fields), registry.dangling? field = none := by
    rw [checkReferences]
    split
    · rename_i error herror
      obtain ⟨field, hfield, hsome⟩ := List.exists_of_findSome?_eq_some herror
      refine ⟨nofun, fun hnone => ?_⟩
      rw [hnone field hfield] at hsome
      cases hsome
    · rename_i hnone
      refine ⟨fun _ field hfield => ?_, fun _ => rfl⟩
      simpa using List.findSome?_eq_none_iff.1 hnone field hfield
  simp only [hchecks, hdangling, h.shapes, List.flatMap_map, List.mem_flatMap]
  constructor
  · intro hall definition hdefinition field hfield
    exact hall ⟨field.name, field.type, definition.name⟩
      ⟨definition, hdefinition, List.mem_map.2 ⟨field, hfield, rfl⟩⟩
  · rintro hall _ ⟨definition, hdefinition, hfield⟩
    obtain ⟨defined, hdefined, rfl⟩ := List.mem_map.1 hfield
    exact hall definition hdefinition defined hdefined

/-! ## Well-formed documents -/

namespace ModelDocument

variable {document : ModelDocument} {registry : Registry}

/-- `document.WellFormed` says that a document gives no name to two shapes, or to two fields of a
shape, that every type is written as one, and that every shape that a type mentions is there. -/
structure WellFormed (document : ModelDocument) : Prop where
  shapeNames : (document.shapes.map (·.name)).Nodup
  fieldNames : ∀ shape ∈ document.shapes, (shape.fields.map (·.name)).Nodup
  types : ∀ shape ∈ document.shapes, ∀ field ∈ shape.fields,
    ∃ type, FieldType.read? field.type = .ok type
  references : ∀ shape ∈ document.shapes, ∀ field ∈ shape.fields, ∀ type,
    FieldType.read? field.type = .ok type → ∀ name, type.Mentions name →
      ∃ other ∈ document.shapes, other.name = name

/-- Described shapes have the names of their documents. -/
theorem names_of_describes {documents : List ShapeDocument} {definitions : List ShapeDefinition}
    (h : List.Forall₂ ShapeDocument.Describes documents definitions) :
    documents.map (·.name) = definitions.map (·.name) :=
  map_eq_of_forall₂ h fun _ _ hdescribes => hdescribes.name

theorem fieldNames_of_describes {document : ShapeDocument} {definition : ShapeDefinition}
    (h : document.Describes definition) :
    document.fields.map (·.name) = definition.fields.map (·.name) :=
  map_eq_of_forall₂ h.fields fun _ _ hdescribes => hdescribes.name

/-- A document that loads is well formed. -/
theorem wellFormed_of_load (h : document.load = .ok registry) : document.WellFormed := by
  obtain ⟨definitions, hdescribes, hlists, hreferences⟩ := load_eq_ok.1 h
  rw [Registry.checkReferences_eq_ok hlists, ← names_of_describes hdescribes] at hreferences
  constructor
  case shapeNames =>
    rw [names_of_describes hdescribes]
    exact hlists.names
  case fieldNames =>
    intro shape hshape
    obtain ⟨definition, hdefinition, hshape⟩ := exists_right_of_forall₂ hdescribes hshape
    rw [fieldNames_of_describes hshape]
    exact hlists.fields definition hdefinition
  case types =>
    intro shape hshape field hfield
    obtain ⟨definition, _, hshape⟩ := exists_right_of_forall₂ hdescribes hshape
    obtain ⟨defined, _, hfield⟩ := exists_right_of_forall₂ hshape.fields hfield
    exact ⟨defined.type, hfield.type⟩
  case references =>
    intro shape hshape field hfield type htype name hname
    obtain ⟨definition, hdefinition, hshape⟩ := exists_right_of_forall₂ hdescribes hshape
    obtain ⟨defined, hdefined, hfield⟩ := exists_right_of_forall₂ hshape.fields hfield
    obtain rfl : defined.type = type := Except.ok.inj (hfield.type.symm.trans htype)
    exact List.mem_map.1 (hreferences definition hdefinition defined hdefined name hname)

/-- A document all of whose types are written as types describes some definitions. -/
theorem exists_describes {documents : List ShapeDocument}
    (h : ∀ shape ∈ documents, ∀ field ∈ shape.fields,
      ∃ type, FieldType.read? field.type = .ok type) :
    ∃ definitions, List.Forall₂ ShapeDocument.Describes documents definitions := by
  refine exists_forall₂_of_mem fun shape hshape => ?_
  have hfields : ∃ fields, List.Forall₂ FieldDocument.Describes shape.fields fields := by
    refine exists_forall₂_of_mem fun field hfield => ?_
    obtain ⟨type, htype⟩ := h shape hshape field hfield
    exact ⟨⟨field.name, type, field.mapsTo⟩, rfl, htype, rfl⟩
  obtain ⟨fields, hfields⟩ := hfields
  exact ⟨⟨shape.name, shape.qualifier, fields⟩, rfl, rfl, hfields⟩

/-- A well-formed document loads. -/
theorem WellFormed.load (h : document.WellFormed) : ∃ registry, document.load = .ok registry := by
  obtain ⟨definitions, hdescribes⟩ := exists_describes h.types
  have hlists : Registry.Lists ⟨definitions.map (·.shape), definitions.flatMap (·.annotations)⟩
      definitions := by
    refine ⟨rfl, rfl, ?_, ?_⟩
    · rw [← names_of_describes hdescribes]
      exact h.shapeNames
    · intro definition hdefinition
      obtain ⟨shape, hshape, hdescribed⟩ := exists_left_of_forall₂ hdescribes hdefinition
      rw [← fieldNames_of_describes hdescribed]
      exact h.fieldNames shape hshape
  refine ⟨_, load_eq_ok.2 ⟨definitions, hdescribes, hlists, ?_⟩⟩
  rw [Registry.checkReferences_eq_ok hlists, ← names_of_describes hdescribes]
  intro definition hdefinition defined hdefined name hname
  obtain ⟨shape, hshape, hdescribed⟩ := exists_left_of_forall₂ hdescribes hdefinition
  obtain ⟨field, hfield, hfielded⟩ := exists_left_of_forall₂ hdescribed.fields hdefined
  exact List.mem_map.2 (h.references shape hshape field hfield _ hfielded.type name hname)

/-! ## Documents of registries -/

/-- A field that a document describes has a type whose shapes are read from their names. -/
theorem nameable_of_describes {field : FieldDocument} {definition : FieldDefinition}
    (h : field.Describes definition) : definition.type.Nameable :=
  FieldType.nameable_of_ofChars h.type

/-- The document of a registry describes what the registry lists, when the names of its shapes are
read as themselves. -/
theorem describes_document {definitions : List ShapeDefinition} (h : registry.Lists definitions)
    (hnameable : ∀ definition ∈ definitions, ∀ field ∈ definition.fields, field.type.Nameable) :
    List.Forall₂ ShapeDocument.Describes registry.document.shapes definitions := by
  rw [Registry.document, h.shapes, List.map_map, List.forall₂_map_left_iff, List.forall₂_same]
  intro definition hdefinition
  refine ⟨rfl, rfl, ?_⟩
  show List.Forall₂ _ ((definition.fields.map _).map _) _
  rw [List.map_map, List.forall₂_map_left_iff, List.forall₂_same]
  intro field hfield
  refine ⟨rfl, FieldType.read_render (hnameable definition hdefinition field hfield), ?_⟩
  exact h.mapsTo?_eq hdefinition hfield

/-- A registry that was loaded lists what the document describes, and its own document describes the
same. -/
theorem describes_of_load (h : document.load = .ok registry) :
    ∃ definitions, List.Forall₂ ShapeDocument.Describes document.shapes definitions ∧
      registry.Lists definitions ∧
      List.Forall₂ ShapeDocument.Describes registry.document.shapes definitions := by
  obtain ⟨definitions, hdescribes, hlists, _⟩ := load_eq_ok.1 h
  refine ⟨definitions, hdescribes, hlists, describes_document hlists ?_⟩
  intro definition hdefinition defined hdefined
  obtain ⟨shape, _, hdescribed⟩ := exists_left_of_forall₂ hdescribes hdefinition
  obtain ⟨field, _, hfield⟩ := exists_left_of_forall₂ hdescribed.fields hdefined
  exact nameable_of_describes hfield

/-- The document of a registry that was loaded loads to the same registry. -/
theorem load_document (h : document.load = .ok registry) :
    registry.document.load = .ok registry := by
  obtain ⟨_, _, _, hreferences⟩ := load_eq_ok.1 h
  obtain ⟨definitions, _, hlists, hdescribes⟩ := describes_of_load h
  exact load_eq_ok.2 ⟨definitions, hdescribes, hlists, hreferences⟩

/-- A document loads exactly when it is well formed. The registry lists the shapes that the document
describes, with their fields and annotations, in order. The document that is written of the registry
describes the same shapes and loads to the same registry, and so is written of it again. -/
theorem load_iff_and_reload (document : ModelDocument) :
    ((∃ registry, document.load = .ok registry) ↔ document.WellFormed) ∧
      ∀ registry, document.load = .ok registry →
        (∃ definitions, List.Forall₂ ShapeDocument.Describes document.shapes definitions ∧
          registry.Lists definitions ∧
          List.Forall₂ ShapeDocument.Describes registry.document.shapes definitions) ∧
        registry.document.load = .ok registry :=
  ⟨⟨fun ⟨_, h⟩ => wellFormed_of_load h, WellFormed.load⟩,
    fun _ h => ⟨describes_of_load h, load_document h⟩⟩

end ModelDocument

/-! ## Models of linked nodes and of orders -/

namespace Sample

/-- `linked` has a shape that mentions itself, the type being written with blanks, and one that
comes before the shape it mentions. -/
def linked : ModelDocument where
  shapes := [⟨"Chain", some "", [⟨"First", " Node ", some "Head"⟩, ⟨"Count", "Integer", none⟩]⟩,
    ⟨"Node", none, [⟨"Next", " Node ", none⟩]⟩]

theorem read_node : FieldType.read? " Node " = .ok (.shape "Node") :=
  (FieldType.ofChars_of_name rfl).2 ⟨by decide, rfl⟩

theorem read_integer : FieldType.read? "Integer" = .ok .integer :=
  @FieldType.read_render .integer trivial

/-- The shapes of `linked` have different names and mention each other only. -/
theorem linked_wellFormed : linked.WellFormed where
  shapeNames := by decide
  fieldNames := by decide
  types := by
    simp [linked, read_node, read_integer]
  references := by
    simp [linked, read_node, read_integer, FieldType.mentions_iff, FieldType.mentioned?]

/-- The document loads, and its registry is written without the blanks and loads again. -/
theorem linked_loads : ∃ registry definitions, linked.load = .ok registry ∧
    List.Forall₂ ShapeDocument.Describes linked.shapes definitions ∧ registry.Lists definitions ∧
    registry.document.load = .ok registry := by
  obtain ⟨hloads, hreloads⟩ := ModelDocument.load_iff_and_reload linked
  obtain ⟨registry, h⟩ := hloads.2 linked_wellFormed
  obtain ⟨⟨definitions, hdescribes, hlists, _⟩, hreload⟩ := hreloads registry h
  exact ⟨registry, definitions, h, hdescribes, hlists, hreload⟩

/-- The registry is what is loaded from its own description. -/
theorem load_registry : registry.document.load = .ok registry := by
  have hinteger : FieldType.read? FieldType.integer.render = .ok .integer :=
    FieldType.read_render trivial
  have hstring : FieldType.read? FieldType.string.render = .ok .string :=
    FieldType.read_render trivial
  have hlist : ∀ name, name ≠ "" → FieldType.named? name.toList = some (.shape name) →
      FieldType.read? (FieldType.list (.shape name)).render = .ok (.list (.shape name)) :=
    fun name hname hnamed => @FieldType.read_render (.list (.shape name)) ⟨hname, hnamed⟩
  have horders := hlist "Order" (by decide) rfl
  have hitems := hlist "Item" (by decide) rfl
  simp only [Registry.document, registry, order, view, item, ShapeDefinition.shape, List.map,
    Registry.fieldDocument, ModelDocument.load, ModelDocument.registerAll,
    ModelDocument.shapeDefinition, ModelDocument.fieldDefinition, List.mapM_cons, List.mapM_nil,
    hinteger, hstring, horders, hitems]
  rfl

end Sample

end Reshape
