import Reshape.Proofs.Conversion.Description

/-!
# Saved conversions

The document that describes a converted predicate can be bound again, also when accesses have become
defaults, unless one of these is a point in time (`saved_conversion_binds`). The defaults of all
other types are read back as the same values. The decimal zero gets a decimal place, and so the
document stands for the predicate whose constants are restated by `Value.reread`.

The default of `DateTime` is the first instant that can be held. It is written with a sign and six
digits for its year, and only years of four digits are read, so that a predicate with this default
has a description which cannot be bound. `sample_lost_visit` is such a predicate.
-/

namespace Reshape

open Document Conversion

/-- `e.Timeless` says that no constant of `e` has the type `DateTime`. -/
def Expr.Timeless (e : Expr) : Prop := ∀ value, .constant value .dateTime ∉ e.nodes

/-! ## Constants of counterparts -/

namespace Conversion

variable {σ : Type} {task : Task σ} {events : List ConversionEvent} {scopes : Scopes}
  {element : Option String} {next : Nat} {e e' : Expr} {root : Parameter}
  {lambdas : List Parameter} {node : Node} {value : Value} {type : FieldType}

/-- A constant of a counterpart is one of the original, or the default of a field that the original
accesses. -/
theorem Converts.constant_origin (h : Converts task events scopes element next e e')
    (hconstant : .constant value type ∈ e'.nodes) :
    .constant value type ∈ e.nodes ∨
      ∃ target field, .member target field ∈ e.nodes ∧ value = Value.ofType field.type ∧
        type = field.type := by
  obtain ⟨_, hnode, _, _, _, _, _, hconverts⟩ := h.nodes _ hconstant
  cases hconverts with
  | @default _ _ _ target field => exact Or.inr ⟨target, field, hnode, rfl, rfl⟩
  | constant => exact Or.inl hnode

/-- The constants of a counterpart without points in time are read back as they are restated. -/
theorem Converts.constantsRead (h : Converts task events scopes element next e e')
    (hrepresents : Represents task.registry root lambdas node e) (hplain : node.Plain)
    (hnames : task.registry.NamesRead) (htimeless : e'.Timeless) :
    (e'.restated Value.reread).ConstantsRead := by
  intro value type hrestated
  obtain ⟨original, hconstant, rfl⟩ := Expr.exists_constant_of_restated hrestated
  rcases h.constant_origin hconstant with hmem | ⟨target, field, hmem, rfl, rfl⟩
  · obtain ⟨hvalue, hback⟩ := hrepresents.constant_plain hplain hmem
    rw [hvalue.reread_eq]
    exact ⟨hvalue.same_self, hback⟩
  · have htype : field.type ≠ .dateTime := by
      intro htype
      rw [htype] at hconstant
      exact htimeless _ hconstant
    have hname : field.type.Nameable := by
      obtain ⟨_, _, haccess, _⟩ := hrepresents.nodes _ hmem
      cases haccess with
      | member _ _ hfield => exact hnames.field hfield
    refine ⟨Value.same_reread_ofType field.type, bindConstant_some.2 ⟨_, _,
      readType_eq_ok.2 (FieldType.read_render hname), readConstant_eq_ok.2 ?_, rfl⟩⟩
    rw [Value.toJson_reread]
    exact Value.ofJson_ofType htype

/-- A constant of a counterpart that is a point in time is not read back. -/
theorem Converts.dateTime_not_read (h : Converts task events scopes element next e e')
    (hrepresents : Represents task.registry root lambdas node e) (hplain : node.Plain)
    (hconstant : .constant value .dateTime ∈ e'.nodes) (bound : Expr) :
    bindConstant value.toJson (some FieldType.dateTime.render) ≠ .ok bound := by
  intro hbind
  have hname : readType FieldType.dateTime.render = .ok .dateTime :=
    readType_eq_ok.2 (@FieldType.read_render .dateTime trivial)
  obtain ⟨_, read, htype, hread, rfl⟩ := bindConstant_some.1 hbind
  obtain rfl := Except.ok.inj (hname.symm.trans htype)
  rw [readConstant_eq_ok] at hread
  rcases h.constant_origin hconstant with hmem | ⟨_, field, _, rfl, htype⟩
  · -- a plain constant of the document would have been read as a point in time itself
    obtain ⟨hvalue, hback⟩ := hrepresents.constant_plain hplain hmem
    obtain ⟨_, _, htype, hvalueRead, heq⟩ := bindConstant_some.1 hback
    cases heq
    exact hvalue.ofJson_dateTime (readConstant_eq_ok.1 hvalueRead)
  · rw [← htype] at hread
    exact Value.ofJson_earliest hread

end Conversion

/-! ## Descriptions that can be bound -/

namespace Document

variable {registry : Registry} {root : Parameter} {lambdas : List Parameter} {e bound : Expr}

/-- When the description of an expression stands for something, so does that of each direct part,
inside some lambdas. -/
theorem Represents.described_part (h : Represents registry root lambdas (Node.ofExpr e) bound) :
    ∀ part ∈ e.children, ∃ lambdas' bound',
      Represents registry root lambdas' (Node.ofExpr part) bound' := by
  cases e with
  | parameter p => simp [Expr.children]
  | member target field =>
      cases h with
      | member htarget => exact List.forall_mem_singleton.2 ⟨_, _, htarget⟩
  | constant value type => simp [Expr.children]
  | binary op left right =>
      cases h with
      | binary hleft hright =>
          exact List.forall_mem_cons.2
            ⟨⟨_, _, hleft⟩, List.forall_mem_singleton.2 ⟨_, _, hright⟩⟩
  | unary op operand =>
      cases h with
      | unary hoperand => exact List.forall_mem_singleton.2 ⟨_, _, hoperand⟩
  | call method receiver arguments =>
      rw [Node.ofExpr, ofArguments_eq_map] at h
      cases h with
      | call hreceiver hlength harguments =>
          refine List.forall_mem_cons.2 ⟨⟨_, _, hreceiver⟩, fun part hpart => ?_⟩
          have hforall := List.forall₂_iff_zip.2 ⟨hlength, fun hmem => harguments _ _ hmem⟩
          obtain ⟨_, _, hargument⟩ :=
            exists_right_of_forall₂ hforall (List.mem_map_of_mem (f := Node.ofExpr) hpart)
          exact ⟨_, _, hargument⟩
  | conditional test ifTrue ifFalse =>
      cases h with
      | conditional htest htrue hfalse =>
          exact List.forall_mem_cons.2 ⟨⟨_, _, htest⟩, List.forall_mem_cons.2
            ⟨⟨_, _, htrue⟩, List.forall_mem_singleton.2 ⟨_, _, hfalse⟩⟩⟩
  | lambda p body =>
      rw [Node.ofExpr] at h
      generalize p.name = name at h
      cases h with
      | lambda _ hbody => exact List.forall_mem_singleton.2 ⟨_, _, hbody⟩
  | init shape bindings =>
      rw [Node.ofExpr, ofBindings_eq_map] at h
      cases h with
      | init hfields hbindings =>
          intro part hpart
          obtain ⟨b, hb, rfl⟩ := List.mem_map.1 hpart
          have hlength := congrArg List.length hfields
          have hforall := List.forall₂_iff_zip.2
            ⟨by simpa using hlength, fun hmem => hbindings _ _ hmem⟩
          obtain ⟨_, _, hbinding⟩ :=
            exists_right_of_forall₂ hforall (List.mem_map_of_mem hb)
          exact ⟨_, _, hbinding⟩

/-- The types of lambdas in what a document stands for are read back. -/
theorem Represents.lambda_nameable {node : Node} (h : Represents registry root lambdas node e)
    {p : Parameter} {body : Expr} (hnode : .lambda p body ∈ e.nodes) : p.type.Nameable := by
  obtain ⟨_, _, hlambda, _⟩ := h.nodes _ hnode
  cases hlambda with
  | lambda htype => exact FieldType.nameable_of_ofChars (readType_eq_ok.1 htype)

/-- When the description of an expression stands for something, each constant in it is read. -/
theorem Represents.described_constant (h : Represents registry root lambdas (Node.ofExpr e) bound)
    {value : Value} {type : FieldType} (hconstant : .constant value type ∈ e.nodes) :
    ∃ bound', bindConstant value.toJson (some type.render) = .ok bound' := by
  induction e using Expr.children_induction generalizing lambdas bound with
  | step e ih =>
      rw [Expr.nodes_eq, List.mem_cons, List.mem_flatMap] at hconstant
      rcases hconstant with rfl | ⟨part, hpart, hconstant⟩
      · cases h with
        | constant hbind => exact ⟨_, hbind⟩
      · obtain ⟨_, _, hdescribed⟩ := h.described_part part hpart
        exact ih part hpart hdescribed hconstant

end Document

/-! ## Converted predicates -/

section

variable {registry : Registry} {document : Document} {predicate converted : Predicate}
  {options : Options} {clock : Clock} {identity next scope nextIdentity : Nat}
  {destination : String} {cache : Cache} {final : State Cache}

/-- A predicate is converted to a registered shape. -/
theorem Conversion.convert_registered
    (hconvert : predicate.convert registry options clock scope destination nextIdentity cache =
      (.ok converted, final)) : (registry.shape? destination).isSome := by
  obtain ⟨_, _, _, hshapes, _⟩ := yields_run hconvert
  exact (shapes_eq_ok hshapes).2.2

/-- What describes a converted predicate with restated constants stands for it, as far as these
constants and the names of shapes are read back. -/
theorem Conversion.convert_represents_restated {restate : Value → Value} {node : Node}
    (hnames : registry.NamesRead)
    (hrepresents : Represents registry predicate.parameter [] node predicate.body)
    (holder : predicate.body.OlderThan nextIdentity) (hunhidden : predicate.Unhidden)
    (hmap : options.customMap = none)
    (hconvert : predicate.convert registry options clock scope destination nextIdentity cache =
      (.ok converted, final)) (hconstants : (converted.body.restated restate).ConstantsRead) :
    Represents registry converted.parameter [] (Node.ofExpr (converted.body.restated restate))
      (converted.body.restated restate) := by
  obtain ⟨source, hsource, hroot, hconverts⟩ := convert_converts hmap hconvert
  have hdestination := hnames.shape (convert_registered hconvert)
  have hscoped : Scoped source [(predicate.parameter, converted.parameter)] predicate.body :=
    ⟨hrepresents.references, List.forall_mem_singleton.2 fun hother => absurd hsource hother⟩
  have hscopes : converted.parameter.type.Nameable := by
    rw [hroot]
    exact hdestination
  have htypes : ∀ q ∈ converted.body.parameters, q.type.Nameable :=
    hconverts.nameable_parameters hnames hdestination hscoped
      (fun p body hnode => hrepresents.lambda_nameable hnode)
      (fun _ _ hconstant => hconstants.nameable (Expr.constant_mem_restated hconstant))
      (List.forall_mem_singleton.2 hscopes) (by simp)
  rw [hroot] at hconverts ⊢
  have hlayered : Layered (rootParameter predicate destination nextIdentity) []
      (nextIdentity + 1) := .nil _ (Nat.lt_succ_self _)
  exact hconverts.represents_restated rfl holder hlayered hrepresents rfl (by simp)
    (fun hname => ⟨by simp, hunhidden hname⟩) hconstants htypes

/-- The parameter of a document that has a name is not hidden. -/
theorem Document.unhidden_of_bind (hnamed : document.parameter.isSome)
    (hbind : document.bind registry identity = .ok (predicate, next)) : predicate.Unhidden := by
  obtain ⟨_, hparameter, _⟩ := bind_eq_ok.1 hbind
  intro hname
  have hnone : document.parameter = none := by
    rwa [hparameter] at hname
  rw [hnone] at hnamed
  cases hnamed

/-- The document that describes what a bound predicate was converted to, with or without defaults
and without a custom map, can be bound exactly when no constant has the type `DateTime`, and then to
the same predicate, which is described alike. The constants of the first document are to be plain,
its parameter is to have a name, and the names of shapes are to be read as their types. -/
theorem saved_conversion_binds (hnames : registry.NamesRead) (hplain : document.body.Plain)
    (hnamed : document.parameter.isSome)
    (hbind : document.bind registry identity = .ok (predicate, next)) (hnext : next ≤ nextIdentity)
    (hmap : options.customMap = none)
    (hconvert : predicate.convert registry options clock scope destination nextIdentity cache =
      (.ok converted, final)) (identity' : Nat) :
    ((∃ bound, converted.describe.bind registry identity' = .ok bound) ↔
        converted.body.Timeless) ∧
      ∀ predicate' next', converted.describe.bind registry identity' = .ok (predicate', next') →
        converted.same predicate' ∧ predicate'.describe = converted.describe := by
  obtain ⟨hrepresents, holder⟩ := bind_represents hbind
  have holder : predicate.body.OlderThan nextIdentity :=
    fun p hp => Nat.lt_of_lt_of_le (holder p (List.mem_cons_of_mem _ hp)) hnext
  have hunhidden := unhidden_of_bind hnamed hbind
  obtain ⟨source, _, hroot, hconverts⟩ := convert_converts hmap hconvert
  have htype : converted.parameter.type = .shape destination := by
    rw [hroot]
    rfl
  have hdescribed := Predicate.describe_restated Value.toJson_reread converted
  have htimeless {bound : Predicate × Nat}
      (hbound : converted.describe.bind registry identity' = .ok bound) :
      converted.body.Timeless := by
    intro value hconstant
    obtain ⟨_, hread⟩ := (bind_represents hbound).1.described_constant hconstant
    exact hconverts.dateTime_not_read hrepresents hplain hconstant _ hread
  have hbinds (htimeless : converted.body.Timeless) :
      ∃ predicate' next', converted.describe.bind registry identity' = .ok (predicate', next') ∧
        converted.same predicate' ∧ predicate'.describe = converted.describe := by
    have hconstants := hconverts.constantsRead hrepresents hplain hnames htimeless
    have hdescribes := convert_represents_restated hnames hrepresents holder hunhidden hmap hconvert
      hconstants
    obtain ⟨predicate', next', hbound, hsame, _, hagain⟩ :=
      @Represents.describe_binds _ (converted.restated Value.reread) _ _ hdescribes hconstants htype
        (convert_registered hconvert) identity'
    rw [hdescribed] at hbound hagain
    exact ⟨predicate', next', hbound,
      Predicate.same_of_restated (fun _ _ => Value.same_of_reread) hsame, hagain⟩
  refine ⟨⟨fun ⟨_, hbound⟩ => htimeless hbound, fun h => ?_⟩, fun predicate' next' hbound => ?_⟩
  · obtain ⟨predicate', next', hbound, _⟩ := hbinds h
    exact ⟨_, hbound⟩
  · obtain ⟨_, _, hbound', hsame, hagain⟩ := hbinds (htimeless hbound)
    cases hbound.symm.trans hbound'
    exact ⟨hsame, hagain⟩

end

/-! ## Visits and stays -/

namespace Sample

/-- `visit` is a shape with a guest, a price and a start. -/
def visit : ShapeDefinition :=
  ⟨"Visit", none, [⟨"Guest", .string, none⟩, ⟨"Price", .decimal, none⟩, ⟨"Start", .dateTime, none⟩]⟩

/-- `stay` is a shape like `visit` that has nothing but the guest. -/
def stay : ShapeDefinition := ⟨"Stay", none, [⟨"Guest", .string, none⟩]⟩

/-- `visits` has both shapes. -/
def visits : Registry := ⟨[visit.shape, stay.shape], []⟩

/-- `visitDocument field` asks for a visit of Ann that has the given field. -/
def visitDocument (field : String) : Document where
  parameter := some "v"
  shape := "Visit"
  body := .binary .and
    (.binary .equal (.member (.parameter (some "v")) "Guest") (.constant (.string "Ann") none))
    (.binary .notEqual (.member (.parameter (some "v")) field) (.constant .null none))

/-- `visited field` is what `visitDocument` is bound to when it asks for `field`. -/
def visited (field : FieldDescriptor) : Predicate where
  parameter := ⟨0, some "v", .shape "Visit"⟩
  body := .binary .and
    (.binary .equal
      (.member (.parameter ⟨0, some "v", .shape "Visit"⟩) ⟨"Guest", .string, "Visit"⟩)
      (.constant (.string "Ann") .string))
    (.binary .notEqual (.member (.parameter ⟨0, some "v", .shape "Visit"⟩) field)
      (.constant .null .any))

/-- `stayed type` is the counterpart over stays of `visited` for a field of the given type, which
stays do not have. -/
def stayed (type : FieldType) : Predicate where
  parameter := ⟨1, some "v", .shape "Stay"⟩
  body := .binary .and
    (.binary .equal
      (.member (.parameter ⟨1, some "v", .shape "Stay"⟩) ⟨"Guest", .string, "Stay"⟩)
      (.constant (.string "Ann") .string))
    (.binary .notEqual (.constant (Value.ofType type) type) (.constant .null .any))

/-- `stayConversion field` is what comes of converting `visited` to stays, with defaults. -/
def stayConversion (field : FieldDescriptor) : Except Error Predicate × State Cache :=
  (visited field).convert visits ⟨none, none, .returnDefault⟩ id 0 "Stay" 1 (.empty .unbounded)

theorem visits_namesRead : visits.NamesRead := by
  intro name hname
  have hnames : visits.knownNames = ["Visit", "Stay"] := rfl
  rw [hnames, List.mem_pair] at hname
  rcases hname with rfl | rfl
  · exact @FieldType.read_render (.shape "Visit") ⟨by decide, rfl⟩
  · exact @FieldType.read_render (.shape "Stay") ⟨by decide, rfl⟩

theorem visitDocument_plain (field : String) : (visitDocument field).body.Plain := by
  have hconstants : (visitDocument field).body.constants =
      [(.string "Ann", none), (.null, none)] := rfl
  rw [Node.Plain, hconstants, List.forall_mem_cons, List.forall_mem_singleton]
  exact ⟨rfl, rfl⟩

theorem stayed_timeless : (stayed .decimal).body.Timeless := by
  simp [Expr.Timeless, stayed, Expr.nodes]

end Sample

/-- Visits with a price are converted to stays with the decimal zero in its place. This is read back
with a decimal place, as the same number. -/
theorem sample_saved_visit :
    (Sample.stayConversion ⟨"Price", .decimal, "Visit"⟩).1 = .ok (Sample.stayed .decimal) ∧
      ∃ predicate next,
        (Sample.stayed .decimal).describe.bind Sample.visits 7 = .ok (predicate, next) ∧
        (Sample.stayed .decimal).same predicate ∧
        predicate.describe = (Sample.stayed .decimal).describe := by
  have hbind : (Sample.visitDocument "Price").bind Sample.visits 0 =
      .ok (Sample.visited ⟨"Price", .decimal, "Visit"⟩, 1) := rfl
  have hconvert : Sample.stayConversion ⟨"Price", .decimal, "Visit"⟩ =
      (.ok (Sample.stayed .decimal), (Sample.stayConversion ⟨"Price", .decimal, "Visit"⟩).2) := rfl
  obtain ⟨hbinds, hsame⟩ := saved_conversion_binds Sample.visits_namesRead
    (Sample.visitDocument_plain "Price") rfl hbind (Nat.le_refl 1) rfl hconvert 7
  obtain ⟨⟨predicate, next⟩, hbound⟩ := hbinds.2 Sample.stayed_timeless
  exact ⟨rfl, predicate, next, hbound, hsame _ _ hbound⟩

/-- Visits with a start are converted to stays with the first instant in its place, and the
description of these cannot be bound. -/
theorem sample_lost_visit :
    Sample.visits.NamesRead ∧
      (Sample.visitDocument "Start").body.Plain ∧
      (Sample.visitDocument "Start").parameter.isSome ∧
      (Sample.visitDocument "Start").bind Sample.visits 0 =
        .ok (Sample.visited ⟨"Start", .dateTime, "Visit"⟩, 1) ∧
      (Sample.stayConversion ⟨"Start", .dateTime, "Visit"⟩).1 = .ok (Sample.stayed .dateTime) ∧
      (Sample.stayed .dateTime).describe.bind Sample.visits 0 =
        .error (invalid ("Invalid constant \"-262143-01-01T00:00:00+00:00\": Type mismatch: " ++
          "expected DateTime, found \"-262143-01-01T00:00:00+00:00\"")) := by
  refine ⟨Sample.visits_namesRead, Sample.visitDocument_plain "Start", rfl, rfl, rfl, ?_⟩
  have hstring : readType FieldType.string.render = .ok .string :=
    readType_eq_ok.2 (@FieldType.read_render .string trivial)
  have hdateTime : readType FieldType.dateTime.render = .ok .dateTime :=
    readType_eq_ok.2 (@FieldType.read_render .dateTime trivial)
  simp only [Document.bind, bindFrom, Predicate.describe, Sample.stayed, Node.ofExpr, bindNode,
    bindConstant, hstring, hdateTime]
  rfl

end Reshape
