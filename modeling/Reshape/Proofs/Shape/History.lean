import Mathlib.Logic.Basic
import Reshape.Proofs.Elementwise
import Reshape.Proofs.Shape.Registration

/-!
# Histories of registrations

Shapes are registered one after the other, and some calls fail. A call that fails leaves the
registry as it is; one that succeeds adds a shape and its annotations behind the others. So a
registry only grows (`Registry.Extends`), and started with none it holds what the definitions that
were accepted describe, in order and nothing else (`Registry.Lists`). What is found in it is read
off these definitions: `history_append_only`.
-/

namespace Reshape.Registry

/-! ## Calls -/

/-- `registry.attempt definition` is the registry after a call that registers `definition`, whether
the call succeeds or fails. -/
def attempt (registry : Registry) (definition : ShapeDefinition) : Registry :=
  match registry.register definition with
  | .ok next => next
  | .error _ => registry

/-- `registry.attemptAll definitions` is the registry after a call for each definition in order. -/
def attemptAll (registry : Registry) (definitions : List ShapeDefinition) : Registry :=
  definitions.foldl attempt registry

/-- `registry.accepted definitions` are the definitions for which the call succeeds. -/
def accepted : Registry → List ShapeDefinition → List ShapeDefinition
  | _, [] => []
  | registry, definition :: rest =>
    match registry.register definition with
    | .ok next => definition :: accepted next rest
    | .error _ => accepted registry rest

variable {registry next later : Registry} {definition : ShapeDefinition}
  {definitions : List ShapeDefinition}

/-- An attempt to register a shape that succeeds gives the new registry. -/
theorem attempt_of_ok (h : registry.register definition = .ok next) :
    registry.attempt definition = next := by
  rw [attempt, h]

/-- A call that fails leaves the registry as it is. -/
theorem attempt_of_error {error : Error} (h : registry.register definition = .error error) :
    registry.attempt definition = registry := by
  rw [attempt, h]

/-- No shape is found under a name that is not registered. -/
theorem shape?_eq_none {name : String} :
    registry.shape? name = none ↔ name ∉ registry.shapeNames := by
  rw [shape?, List.find?_eq_none, shapeNames, List.mem_map]
  simp

theorem isSome_shape? {name : String} :
    (registry.shape? name).isSome ↔ name ∈ registry.shapeNames := by
  rw [Option.isSome_iff_ne_none, ne_eq, shape?_eq_none, not_not]

/-- A call fails exactly when the definition repeats a field or its name is taken. -/
theorem register_eq_error : (∃ error, registry.register definition = .error error) ↔
    ¬ (definition.fields.map (·.name)).Nodup ∨ definition.name ∈ registry.shapeNames := by
  rw [← not_iff_not, not_or, not_not, ← shape?_eq_none]
  cases h : registry.register definition with
  | ok next =>
      obtain ⟨hfields, hname, _⟩ := register_eq_ok.1 h
      simp [hfields, hname]
  | error error =>
      have hfails : ¬ ((definition.fields.map (·.name)).Nodup ∧
          registry.shape? definition.name = none) := by
        rintro ⟨hfields, hname⟩
        rw [register_eq_ok.2 ⟨hfields, hname, rfl⟩] at h
        cases h
      simpa using hfails

/-! ## Registries that grow -/

/-- `registry.Extends later` says that `later` comes about by adding shapes and annotations behind
those of `registry`, and answers the same for every shape of `registry`. -/
structure Extends (registry later : Registry) : Prop where
  shapes : registry.shapes <+: later.shapes
  annotations : registry.annotations <+: later.annotations
  shape? : ∀ name, (registry.shape? name).isSome → later.shape? name = registry.shape? name
  mapsTo? : ∀ field : FieldId, (registry.shape? field.shape).isSome →
    later.mapsTo? field = registry.mapsTo? field

namespace Extends

theorem refl (registry : Registry) : registry.Extends registry :=
  ⟨List.prefix_rfl, List.prefix_rfl, fun _ _ => rfl, fun _ _ => rfl⟩

theorem trans (h : registry.Extends next) (hlater : next.Extends later) :
    registry.Extends later where
  shapes := h.shapes.trans hlater.shapes
  annotations := h.annotations.trans hlater.annotations
  shape? := by
    intro name hname
    have hnext := h.shape? name hname
    rw [hlater.shape? name (by rwa [hnext]), hnext]
  mapsTo? := by
    intro field hfield
    rw [hlater.mapsTo? field (by rwa [h.shape? field.shape hfield]), h.mapsTo? field hfield]

/-- The fields of a registered shape are found as before. -/
theorem member? (h : registry.Extends later) {shape : String}
    (hshape : (registry.shape? shape).isSome) (name : String) :
    later.member? shape name = registry.member? shape name := by
  rw [Registry.member?, h.shape? shape hshape, Registry.member?]

/-- A field that is found is found as before. -/
theorem member?_eq_some (h : registry.Extends later) {shape name : String}
    {field : FieldDescriptor} (hfield : registry.member? shape name = some field) :
    later.member? shape name = some field := by
  obtain ⟨found, hfound, _⟩ := Option.bind_eq_some_iff.1 hfield
  rwa [h.member? (Option.isSome_of_eq_some hfound)]

/-- A shape that is found is found as before. -/
theorem shape?_eq_some (h : registry.Extends later) {name : String} {shape : Shape}
    (hshape : registry.shape? name = some shape) : later.shape? name = some shape := by
  rwa [h.shape? name (Option.isSome_of_eq_some hshape)]

end Extends

/-- An attempt to register a shape extends the registry, or leaves it as it is. -/
theorem extends_attempt (registry : Registry) (definition : ShapeDefinition) :
    registry.Extends (registry.attempt definition) := by
  cases h : registry.register definition with
  | error error =>
      rw [attempt_of_error h]
      exact .refl registry
  | ok next =>
      rw [attempt_of_ok h]
      refine ⟨?_, ?_, fun _ => shape?_of_register h, fun _ => mapsTo?_of_register h⟩
      · rw [shapes_of_register h]
        exact List.prefix_append _ _
      · rw [(annotations_of_register h).2]
        exact List.prefix_append _ _

/-- A registry extends what it was before any calls. -/
theorem extends_attemptAll (registry : Registry) (definitions : List ShapeDefinition) :
    registry.Extends (registry.attemptAll definitions) := by
  induction definitions generalizing registry with
  | nil => exact .refl registry
  | cons definition rest ih => exact (extends_attempt registry definition).trans (ih _)

/-! ## What a registry lists -/

/-- `registry.Lists definitions` says that the registry holds what the definitions describe, in
order and nothing else. The names of the shapes are distinct, and so are those of the fields of
each. -/
structure Lists (registry : Registry) (definitions : List ShapeDefinition) : Prop where
  shapes : registry.shapes = definitions.map (·.shape)
  annotations : registry.annotations = definitions.flatMap (·.annotations)
  names : (definitions.map (·.name)).Nodup
  fields : ∀ definition ∈ definitions, (definition.fields.map (·.name)).Nodup

namespace Lists

theorem empty : Registry.empty.Lists [] := ⟨rfl, rfl, .nil, nofun⟩

/-- The names of the shapes are those of their definitions. -/
theorem shapeNames_eq (h : registry.Lists definitions) :
    registry.shapeNames = definitions.map (·.name) := by
  rw [shapeNames, h.shapes, List.map_map]
  rfl

/-- What is listed determines the registry. -/
theorem unique (h : registry.Lists definitions) (hnext : next.Lists definitions) :
    registry = next := by
  cases registry
  cases next
  rw [mk.injEq]
  exact ⟨h.shapes.trans hnext.shapes.symm, h.annotations.trans hnext.annotations.symm⟩

/-- The first of some definitions that are listed can be listed alone. -/
theorem front {more : List ShapeDefinition} (h : registry.Lists (definitions ++ more)) :
    Lists ⟨definitions.map (·.shape), definitions.flatMap (·.annotations)⟩ definitions where
  shapes := rfl
  annotations := rfl
  names := h.names.sublist ((List.sublist_append_left definitions more).map _)
  fields definition hdefinition := h.fields definition (List.mem_append_left more hdefinition)

/-- A registration succeeds when the registry lists one definition more after it. -/
theorem register_iff (h : registry.Lists definitions) :
    registry.register definition = .ok next ↔ next.Lists (definitions ++ [definition]) := by
  rw [register_eq_ok, shape?_eq_none, h.shapeNames_eq, h.shapes, h.annotations]
  constructor
  · rintro ⟨hfields, hnew, rfl⟩
    refine ⟨by simp, by simp, ?_, ?_⟩
    · rw [List.map_append, List.map_singleton]
      exact h.names.append (List.nodup_singleton _) (by simpa using hnew)
    · simpa [or_imp, forall_and] using ⟨h.fields, hfields⟩
  · intro hnext
    have hnames := hnext.names
    rw [List.map_append, List.map_singleton] at hnames
    refine ⟨hnext.fields definition (by simp), ?_, ?_⟩
    · simpa using List.disjoint_of_nodup_append hnames
    · cases next
      simpa using And.intro hnext.shapes hnext.annotations

/-- After a call for each of some definitions the registry lists those that were accepted as
well. -/
theorem attemptAll (h : registry.Lists definitions) (more : List ShapeDefinition) :
    (registry.attemptAll more).Lists (definitions ++ registry.accepted more) := by
  induction more generalizing registry definitions with
  | nil =>
      rw [accepted, List.append_nil]
      exact h
  | cons definition rest ih =>
      rw [Registry.attemptAll, List.foldl_cons, ← Registry.attemptAll, accepted]
      cases hregister : registry.register definition with
      | error error =>
          rw [attempt_of_error hregister]
          exact ih h
      | ok next =>
          rw [attempt_of_ok hregister]
          have hnext := ih (h.register_iff.1 hregister)
          rwa [List.append_assoc] at hnext

/-- Identities of fields are distinct when those of each shape are, as the shapes are. -/
theorem nodup_flatMap (h : registry.Lists definitions) {ids : ShapeDefinition → List FieldId}
    (hshape : ∀ definition, ∀ id ∈ ids definition, id.shape = definition.name)
    (hids : ∀ definition ∈ definitions, (ids definition).Nodup) :
    (definitions.flatMap ids).Nodup := by
  rw [List.nodup_flatMap]
  refine ⟨hids, (List.pairwise_map.1 h.names).imp ?_⟩
  intro definition other hnames id hid hother
  exact hnames ((hshape definition id hid).symm.trans (hshape other id hother))

/-- No two fields of the registry have the same identity. -/
theorem nodup_fields (h : registry.Lists definitions) :
    ((registry.shapes.flatMap (·.fields)).map (·.id)).Nodup := by
  rw [h.shapes, List.flatMap_map, List.map_flatMap]
  refine h.nodup_flatMap ?_ ?_
  · intro definition id hid
    obtain ⟨field, hfield, rfl⟩ := List.mem_map.1 hid
    exact definition.declaringShape_of_mem hfield
  · intro definition hdefinition
    rw [ShapeDefinition.shape, List.map_map]
    refine List.pairwise_map.2 ((List.pairwise_map.1 (h.fields definition hdefinition)).imp ?_)
    intro field other hnames hsame
    exact hnames (congrArg FieldId.name hsame)

/-- No two annotations of the registry are of the same field. -/
theorem nodup_annotations (h : registry.Lists definitions) :
    (registry.annotations.map Prod.fst).Nodup := by
  rw [h.annotations, List.map_flatMap]
  refine h.nodup_flatMap ?_ ?_
  · intro definition id hid
    obtain ⟨entry, hentry, rfl⟩ := List.mem_map.1 hid
    obtain ⟨field, _, hfield⟩ := List.mem_filterMap.1 hentry
    obtain ⟨target, _, rfl⟩ := Option.map_eq_some_iff.1 hfield
    rfl
  · intro definition hdefinition
    refine List.pairwise_map.2 (List.pairwise_filterMap.2 ?_)
    refine (List.pairwise_map.1 (h.fields definition hdefinition)).imp ?_
    intro field other hnames entry hentry entry' hentry' hsame
    obtain ⟨target, _, rfl⟩ := Option.map_eq_some_iff.1 hentry
    obtain ⟨target', _, rfl⟩ := Option.map_eq_some_iff.1 hentry'
    exact hnames (congrArg FieldId.name hsame)

/-- The shape of a name is the one that the definition of that name describes. -/
theorem shape?_eq_some (h : registry.Lists definitions) {name : String} {shape : Shape} :
    registry.shape? name = some shape ↔
      ∃ definition ∈ definitions, definition.name = name ∧ definition.shape = shape := by
  have hnames : (registry.shapes.map (·.name)).Nodup := by
    rw [← shapeNames, h.shapeNames_eq]
    exact h.names
  rw [shape?, find?_eq_some_of_nodup hnames, h.shapes, List.mem_map]
  constructor
  · rintro ⟨⟨definition, hdefinition, rfl⟩, hname⟩
    exact ⟨definition, hdefinition, hname, rfl⟩
  · rintro ⟨definition, hdefinition, hname, rfl⟩
    exact ⟨⟨definition, hdefinition, rfl⟩, hname⟩

/-- The field of a name on a shape is the one that the definition of the shape gives that name. -/
theorem member?_eq_some (h : registry.Lists definitions) {shape name : String}
    {field : FieldDescriptor} :
    registry.member? shape name = some field ↔
      ∃ definition ∈ definitions, definition.name = shape ∧ ∃ defined ∈ definition.fields,
        defined.name = name ∧ field = ⟨name, defined.type, shape⟩ := by
  have hfield {definition : ShapeDefinition} (hdefinition : definition ∈ definitions) :
      definition.shape.field? name = some field ↔ ∃ defined ∈ definition.fields,
        defined.name = name ∧ field = ⟨name, defined.type, definition.name⟩ := by
    have hnames : (definition.shape.fields.map (·.name)).Nodup := by
      rw [ShapeDefinition.shape, List.map_map]
      exact h.fields definition hdefinition
    rw [Shape.field?, find?_eq_some_of_nodup hnames, ShapeDefinition.shape, List.mem_map]
    constructor
    · rintro ⟨⟨defined, hdefined, rfl⟩, rfl⟩
      exact ⟨defined, hdefined, rfl, rfl⟩
    · rintro ⟨defined, hdefined, rfl, rfl⟩
      exact ⟨⟨defined, hdefined, rfl⟩, rfl⟩
  rw [member?, Option.bind_eq_some_iff]
  constructor
  · rintro ⟨found, hfound, hmember⟩
    obtain ⟨definition, hdefinition, rfl, rfl⟩ := h.shape?_eq_some.1 hfound
    exact ⟨definition, hdefinition, rfl, (hfield hdefinition).1 hmember⟩
  · rintro ⟨definition, hdefinition, rfl, hdefined⟩
    exact ⟨definition.shape, h.shape?_eq_some.2 ⟨definition, hdefinition, rfl, rfl⟩,
      (hfield hdefinition).2 hdefined⟩

/-- The annotation of a field is the one that the definition of its shape gives it. -/
theorem mapsTo?_eq_some (h : registry.Lists definitions) {shape name target : String} :
    registry.mapsTo? ⟨shape, name⟩ = some target ↔
      ∃ definition ∈ definitions, definition.name = shape ∧ ∃ defined ∈ definition.fields,
        defined.name = name ∧ defined.mapsTo = some target := by
  rw [mapsTo?, lookup_eq_some_of_nodup h.nodup_annotations, h.annotations, List.mem_flatMap]
  constructor
  · rintro ⟨definition, hdefinition, hmem⟩
    obtain ⟨defined, hdefined, hentry⟩ := List.mem_filterMap.1 hmem
    obtain ⟨_, htarget, hsame⟩ := Option.map_eq_some_iff.1 hentry
    cases hsame
    exact ⟨definition, hdefinition, rfl, defined, hdefined, rfl, htarget⟩
  · rintro ⟨definition, hdefinition, rfl, defined, hdefined, rfl, htarget⟩
    refine ⟨definition, hdefinition, List.mem_filterMap.2 ⟨defined, hdefined, ?_⟩⟩
    rw [htarget, Option.map_some]

/-- A field that is listed has the annotation that its definition gives it. -/
theorem mapsTo?_eq (h : registry.Lists definitions) (hdefinition : definition ∈ definitions)
    {field : FieldDefinition} (hfield : field ∈ definition.fields) :
    registry.mapsTo? ⟨definition.name, field.name⟩ = field.mapsTo := by
  ext target
  rw [h.mapsTo?_eq_some]
  constructor
  · rintro ⟨other, hother, hname, defined, hdefined, hfieldName, htarget⟩
    obtain rfl := List.inj_on_of_nodup_map h.names hother hdefinition hname
    obtain rfl := List.inj_on_of_nodup_map (h.fields other hother) hdefined hfield hfieldName
    exact htarget
  · intro htarget
    exact ⟨definition, hdefinition, rfl, field, hfield, rfl, htarget⟩

/-- There is one field of a name on a shape, or none. -/
theorem filter_fields (h : registry.Lists definitions) (shape name : String) :
    (registry.shapes.flatMap (·.fields)).filter (fun field => field.id == ⟨shape, name⟩) =
      (registry.member? shape name).toList := by
  rw [filter_eq_toList_find? h.nodup_fields]
  congr 1
  ext field
  rw [find?_eq_some_of_nodup h.nodup_fields, h.member?_eq_some, h.shapes, List.flatMap_map,
    List.mem_flatMap]
  constructor
  · rintro ⟨⟨definition, hdefinition, hfield⟩, hid⟩
    obtain ⟨defined, hdefined, rfl⟩ := List.mem_map.1 hfield
    cases hid
    exact ⟨definition, hdefinition, rfl, defined, hdefined, rfl, rfl⟩
  · rintro ⟨definition, hdefinition, rfl, defined, hdefined, rfl, rfl⟩
    exact ⟨⟨definition, hdefinition, List.mem_map.2 ⟨defined, hdefined, rfl⟩⟩, rfl⟩

end Lists

/-! ## Histories -/

/-- `registry.Answers definitions` says that what is found in the registry is what the definitions
say: the names of the shapes in order, none of them twice, at most one field of a name on a shape,
and the annotations of the fields that have one. -/
structure Answers (registry : Registry) (definitions : List ShapeDefinition) : Prop where
  shapeNames_eq : registry.shapeNames = definitions.map (·.name)
  nodup_shapeNames : registry.shapeNames.Nodup
  shape?_eq_some : ∀ name shape, registry.shape? name = some shape ↔
    ∃ definition ∈ definitions, definition.name = name ∧ definition.shape = shape
  matches_eq : ∀ shape name,
    (registry.shapes.flatMap (·.fields)).filter (fun field => field.id == ⟨shape, name⟩) =
      (registry.member? shape name).toList
  member?_eq_some : ∀ shape name field, registry.member? shape name = some field ↔
    ∃ definition ∈ definitions, definition.name = shape ∧ ∃ defined ∈ definition.fields,
      defined.name = name ∧ field = ⟨name, defined.type, shape⟩
  mapsTo?_eq_some : ∀ shape name target, registry.mapsTo? ⟨shape, name⟩ = some target ↔
    ∃ definition ∈ definitions, definition.name = shape ∧ ∃ defined ∈ definition.fields,
      defined.name = name ∧ defined.mapsTo = some target
  mem_annotations : ∀ id target,
    (id, target) ∈ registry.annotations ↔ registry.mapsTo? id = some target

/-- A registry that lists definitions answers as they say. -/
theorem Lists.answers (h : registry.Lists definitions) : registry.Answers definitions where
  shapeNames_eq := h.shapeNames_eq
  nodup_shapeNames := by
    rw [h.shapeNames_eq]
    exact h.names
  shape?_eq_some _ _ := h.shape?_eq_some
  matches_eq := h.filter_fields
  member?_eq_some _ _ _ := h.member?_eq_some
  mapsTo?_eq_some _ _ _ := h.mapsTo?_eq_some
  mem_annotations _ _ := (lookup_eq_some_of_nodup h.nodup_annotations).symm

/-- At every moment of a history that starts without shapes, a call fails exactly when its
definition repeats a field or its name is taken, and leaves the registry as it is; what is there
stays as it is whatever calls come later; and what is found is what the accepted definitions say. -/
theorem history_append_only (earlier later : List ShapeDefinition) :
    let registry := empty.attemptAll earlier
    (∀ definition, (∃ error, registry.register definition = .error error) ↔
      ¬ (definition.fields.map (·.name)).Nodup ∨ definition.name ∈ registry.shapeNames) ∧
    (∀ definition error, registry.register definition = .error error →
      registry.attempt definition = registry) ∧
    registry.Extends (registry.attemptAll later) ∧
    registry.Answers (empty.accepted earlier) := by
  intro registry
  have hlists : registry.Lists (empty.accepted earlier) := Lists.empty.attemptAll earlier
  exact ⟨fun _ => register_eq_error, fun _ _ => attempt_of_error,
    extends_attemptAll registry later, hlists.answers⟩

/-- Registering orders a second time fails, and changes nothing. -/
theorem history_of_orders :
    let registry := empty.attemptAll [Sample.order, Sample.order, Sample.view]
    (∃ error, registry.register Sample.order = .error error) ∧
      registry.attempt Sample.order = registry ∧
      registry.Extends (registry.attemptAll [Sample.view, Sample.item]) ∧
      registry.shapeNames = ["Order", "View"] ∧
      registry.mapsTo? ⟨"Order", "Total"⟩ = some "Amount" := by
  intro registry
  obtain ⟨hfails, hunchanged, hextends, hanswers⟩ :=
    history_append_only [Sample.order, Sample.order, Sample.view] [Sample.view, Sample.item]
  have hnames : registry.shapeNames = ["Order", "View"] := hanswers.shapeNames_eq
  obtain ⟨error, herror⟩ := (hfails Sample.order).2 (Or.inr (hnames ▸ List.mem_cons_self))
  refine ⟨⟨error, herror⟩, hunchanged Sample.order error herror, hextends, hnames, ?_⟩
  exact (hanswers.mapsTo?_eq_some _ _ _).2 ⟨Sample.order, List.mem_cons_self, rfl, _,
    List.mem_cons_self, rfl, rfl⟩

end Reshape.Registry
