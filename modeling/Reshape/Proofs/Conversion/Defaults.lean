import Reshape.Evaluation.Basic
import Reshape.Proofs.Conversion.Run

/-!
# Accesses on defaults

A conversion that allows defaults puts one in place of an access without counterpart. The default
keeps the type of the field. Where that is a shape, an access made on the access is therefore looked
up on this shape of the source side, and may be found there. `access_of_default` says that a
conversion comes to access a constant in no other way, and that such an access never has a value,
the constant being null. So a path through a field that is given up becomes a default as a whole
unless the type of the field names a shape that has the next field of the path.
-/

namespace Reshape

/-- `e.ReadsNoConstant` says that no access in `e` is made on a constant. -/
def Expr.ReadsNoConstant (e : Expr) : Prop :=
  ∀ target field, .member target field ∈ e.nodes → ∀ value type, target ≠ .constant value type

/-- The default of a type that names a shape is null. -/
theorem Value.ofType_of_shapeName {type : FieldType} {shape : String}
    (h : type.shapeName? = some shape) : Value.ofType type = .null := by
  cases type with
  | optional inner => rfl
  | shape name => rfl
  | _ => cases h

namespace Conversion

variable {σ : Type} {task : Task σ} {events : List ConversionEvent} {scopes : Scopes}
  {element : Option String} {next : Nat} {e e' : Expr}

/-- `OnDefault registry events e value type field` says how an access to `field` on the constant
`value` comes about: `e` accesses a field of this name on an access that is among the substitutions,
the constant being the default of its field, and `field` is found on the shape that the type of the
default names. -/
def OnDefault (registry : Registry) (events : List ConversionEvent) (e : Expr) (value : Value)
    (type : FieldType) (field : FieldDescriptor) : Prop :=
  ∃ target inner outer shape name searched,
    .member (.member target inner) outer ∈ e.nodes ∧
    .substituted ⟨target, inner⟩ name searched ∈ events ∧
    value = .null ∧ type = inner.type ∧ type.shapeName? = some shape ∧
    registry.member? shape outer.name = some field

/-- A counterpart of an expression that accesses no constant only accesses constants that are
defaults of what was accessed. -/
theorem Converts.onDefault (h : Converts task events scopes element next e e')
    (he : e.ReadsNoConstant) {value : Value} {type : FieldType} {field' : FieldDescriptor}
    (hnode : .member (.constant value type) field' ∈ e'.nodes) :
    OnDefault task.registry events e value type field' := by
  obtain ⟨node, hmem, _, _, _, _, _, hconverts⟩ := h.nodes _ hnode
  -- only an access is converted to an access, and only a constant or an access to a constant
  cases hconverts with
  | @member _ _ _ target _ outer _ name shape htarget hname hshape hfound =>
      obtain rfl : name = outer.name := hname rfl
      cases htarget with
      | constant => exact absurd rfl (he _ _ hmem _ _)
      | @default _ _ _ target inner name searched _ hevent =>
          exact ⟨target, inner, outer, shape, name, searched, hmem, hevent,
            Value.ofType_of_shapeName hshape, rfl, hshape, hfound⟩

variable {registry : Registry} {options : Options} {predicate converted : Predicate}
  {destination : String} {clock : Clock} {scope nextIdentity : Nat} {cache : Cache}
  {final : State Cache}

/-- Where a converted predicate accesses a constant, and the original accessed none, the original
accesses a field on an access that was given up for its default, and the shape of that default has
the field. An access like this has no value in any environment. -/
theorem access_of_default (hbody : predicate.body.ReadsNoConstant) (hmap : options.customMap = none)
    (hconvert : predicate.convert registry options clock scope destination nextIdentity cache =
      (.ok converted, final)) {value : Value} {type : FieldType} {field : FieldDescriptor}
    (hnode : .member (.constant value type) field ∈ converted.body.nodes) :
    OnDefault registry final.events predicate.body value type field ∧
      ∀ environment, Evaluation.evaluate environment (.member (.constant value type) field) =
        .error (.nullReference (Expr.member (.constant value type) field).render) := by
  obtain ⟨_, _, _, hconverts⟩ := convert_converts hmap hconvert
  have hdefault := hconverts.onDefault hbody hnode
  refine ⟨hdefault, fun environment => ?_⟩
  obtain ⟨_, _, _, _, _, _, _, _, rfl, _⟩ := hdefault
  rfl

end Conversion

/-! ## Employees without managers -/

namespace Sample

open Conversion

/-- `employee` is a shape with a manager of the same shape. -/
def employee : ShapeDefinition :=
  ⟨"Employee", none,
    [⟨"Name", .string, none⟩, ⟨"Manager", .shape "Employee", none⟩, ⟨"Active", .boolean, none⟩]⟩

/-- `contact` is a shape like `employee` that has nothing but the last field. -/
def contact : ShapeDefinition := ⟨"Contact", none, [⟨"Active", .boolean, none⟩]⟩

/-- `staff` has both shapes. -/
def staff : Registry := ⟨[employee.shape, contact.shape], []⟩

/-- `worker` is the parameter of `managed`. -/
def worker : Parameter := ⟨0, some "e", .shape "Employee"⟩

/-- `managed` asks for an employee who is managed by Ann, or active. -/
def managed : Predicate where
  parameter := worker
  body := .binary .or
    (.binary .equal
      (.member
        (.member (.parameter worker) ⟨"Manager", .shape "Employee", "Employee"⟩)
        ⟨"Name", .string, "Employee"⟩)
      (.constant (.string "Ann") .string))
    (.member (.parameter worker) ⟨"Active", .boolean, "Employee"⟩)

/-- `managedContact` is the counterpart of `managed` over contacts, which have no manager. -/
def managedContact : Predicate where
  parameter := ⟨1, some "e", .shape "Contact"⟩
  body := .binary .or
    (.binary .equal
      (.member (.constant .null (.shape "Employee")) ⟨"Name", .string, "Employee"⟩)
      (.constant (.string "Ann") .string))
    (.member (.parameter ⟨1, some "e", .shape "Contact"⟩) ⟨"Active", .boolean, "Contact"⟩)

/-- `managedConversion` is what comes of converting `managed` to contacts, with defaults. -/
def managedConversion : Except Error Predicate × State Cache :=
  managed.convert staff ⟨none, none, .returnDefault⟩ id 0 "Contact" 1 (.empty .unbounded)

theorem managedConversion_eq : managedConversion = (.ok managedContact, managedConversion.2) := rfl

theorem managed_readsNoConstant : managed.body.ReadsNoConstant := by
  intro target field hnode
  have hread : target = .member (.parameter worker) ⟨"Manager", .shape "Employee", "Employee"⟩ ∧
        field = ⟨"Name", .string, "Employee"⟩ ∨
      target = .parameter worker ∧ field = ⟨"Manager", .shape "Employee", "Employee"⟩ ∨
      target = .parameter worker ∧ field = ⟨"Active", .boolean, "Employee"⟩ := by
    simpa [managed, Expr.nodes] using hnode
  rcases hread with ⟨rfl, _⟩ | ⟨rfl, _⟩ | ⟨rfl, _⟩ <;> simp

end Sample

/-- The manager of an employee is given up, and then the name of that default is asked for, as
employees have one. -/
theorem sample_access_of_default :
    Sample.managedConversion.1 = .ok Sample.managedContact ∧
      Conversion.OnDefault Sample.staff Sample.managedConversion.2.events Sample.managed.body .null
        (.shape "Employee") ⟨"Name", .string, "Employee"⟩ := by
  have hnode : .member (.constant .null (.shape "Employee")) ⟨"Name", .string, "Employee"⟩ ∈
      Sample.managedContact.body.nodes := by
    simp [Sample.managedContact, Expr.nodes]
  exact ⟨rfl, (Conversion.access_of_default Sample.managed_readsNoConstant rfl
    Sample.managedConversion_eq hnode).1⟩

/-- Asking for an active employee or one who is managed by Ann accesses no constant. The counterpart
over contacts does, and fails on an active contact. -/
theorem sample_default_accessed :
    Sample.managed.body.ReadsNoConstant ∧
      Sample.managedConversion.1 = .ok Sample.managedContact ∧
      ¬ Sample.managedContact.body.ReadsNoConstant ∧
      Sample.managedContact.test (.record "Contact" [("Active", .boolean true)]) =
        .error (.nullReference "null.Name") := by
  refine ⟨Sample.managed_readsNoConstant, rfl, fun h => ?_, rfl⟩
  have hnode : .member (.constant .null (.shape "Employee")) ⟨"Name", .string, "Employee"⟩ ∈
      Sample.managedContact.body.nodes := by
    simp [Sample.managedContact, Expr.nodes]
  exact h _ _ hnode _ _ rfl

end Reshape
