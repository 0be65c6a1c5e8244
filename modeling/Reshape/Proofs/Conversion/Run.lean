import Reshape.Conversion.Basic
import Reshape.Proofs.Conversion.Converts
import Reshape.Proofs.Shape.Registration

/-!
# Runs of conversions

A conversion that succeeds has found its two shapes, converted the body over a new parameter of the
destination shape, and kept a boolean body boolean (`yields_run`).
-/

namespace Reshape.Conversion

variable {σ : Type} {registry : Registry} {options : Options} {reader : AnnotationReader σ}
  {predicate converted : Predicate} {destination source : String} {start finish : State σ}

/-- `rootParameter predicate destination identity` is the destination parameter. -/
def rootParameter (predicate : Predicate) (destination : String) (identity : Nat) : Parameter :=
  ⟨identity, some (predicate.parameter.name.getD fallbackName), .shape destination⟩

/-- `bodyTask registry options reader predicate source destination identity` is the task of
converting the body of a predicate, the destination parameter having the given identity. -/
def bodyTask (registry : Registry) (options : Options) (reader : AnnotationReader σ)
    (predicate : Predicate) (source destination : String) (identity : Nat) : Task σ :=
  ⟨registry, options, source, destination, rootParameter predicate destination identity, reader⟩

/-- `bodyState predicate source destination state` is the state in which the body is converted. -/
def bodyState (predicate : Predicate) (source destination : String) (state : State σ) : State σ :=
  { state with
    nextIdentity := state.nextIdentity + 1
    events := state.events ++ [.started predicate source destination] }

/-- The shapes of a conversion are the predicate's own and the destination, both registered. -/
theorem shapes_eq_ok (h : shapes registry predicate destination = .ok source) :
    predicate.shape? = some source ∧ (registry.shape? source).isSome ∧
      (registry.shape? destination).isSome := by
  rw [shapes] at h
  split at h
  · cases h
  · rename_i shape hshape
    split at h
    · cases h
    · rename_i hsource
      split at h
      · cases h
      · rename_i hdestination
        cases h
        exact ⟨hshape, by simpa [Option.isSome_iff_ne_none] using hsource,
          by simpa [Option.isSome_iff_ne_none] using hdestination⟩

/-- The shapes of a conversion are settled when both are registered. -/
theorem shapes_of_registered (hshape : predicate.shape? = some source)
    (hsource : (registry.shape? source).isSome)
    (hdestination : (registry.shape? destination).isSome) :
    shapes registry predicate destination = .ok source := by
  rw [shapes, hshape]
  simp [Option.isNone_iff_eq_none, Option.isSome_iff_ne_none.1 hsource,
    Option.isSome_iff_ne_none.1 hdestination]

/-- A result that does not depend on the state leaves it as it is. -/
theorem perform_liftM {α : Type} (result : Except Error α) (state : State σ) :
    perform (liftM result) state = (result, state) := by
  cases result <;> rfl

/-- A conversion that succeeds has settled its shapes and converted the body from the state after
the destination parameter was made. -/
theorem yields_run (h : Yields (run registry options reader predicate destination) start converted
    finish) :
    ∃ source body middle, shapes registry predicate destination = .ok source ∧
      Yields (counterpart
          (bodyTask registry options reader predicate source destination start.nextIdentity)
          [(predicate.parameter, rootParameter predicate destination start.nextIdentity)] none
          predicate.body)
        (bodyState predicate source destination start) body middle ∧
      converted = ⟨rootParameter predicate destination start.nextIdentity, body⟩ ∧
      (predicate.isBoolean → converted.isBoolean) ∧
      finish = { middle with events := middle.events ++ [.finished converted] } := by
  rw [run, yields_bind] at h
  obtain ⟨source, _, hsource, h⟩ := h
  rw [Yields, perform_liftM, Prod.mk.injEq] at hsource
  obtain ⟨hsource, rfl⟩ := hsource
  simp only [yields_bind, yields_note, yields_fresh] at h
  obtain ⟨_, _, rfl, _, _, ⟨rfl, rfl⟩, body, middle, hbody, h⟩ := h
  refine ⟨source, body, middle, hsource, hbody, ?_⟩
  split at h
  · simp only [yields_bind, yields_throw, false_and, exists_false] at h
  · rename_i hboolean
    simp only [yields_bind, yields_note, yields_pure] at h
    obtain ⟨_, _, rfl, rfl, rfl⟩ := h
    refine ⟨rfl, fun hwas => ?_, rfl⟩
    rw [hwas, Bool.true_and, Bool.not_eq_true, Bool.not_eq_false'] at hboolean
    exact hboolean

/-- A predicate that is converted without a custom map has a counterpart of its body, over the
destination parameter. -/
theorem convert_converts {clock : Clock} {scope nextIdentity : Nat} {cache : Cache}
    {final : State Cache} (hmap : options.customMap = none)
    (hconvert : predicate.convert registry options clock scope destination nextIdentity cache =
      (.ok converted, final)) :
    ∃ source, predicate.shape? = some source ∧
      converted.parameter = rootParameter predicate destination nextIdentity ∧
      Converts (bodyTask registry options (.cached clock (registry.table scope)) predicate source
          destination nextIdentity)
        final.events [(predicate.parameter, converted.parameter)] none (nextIdentity + 1)
        predicate.body converted.body := by
  obtain ⟨source, body, middle, hshapes, hyields, rfl, _, rfl⟩ := yields_run hconvert
  refine ⟨source, (shapes_eq_ok hshapes).1, rfl, ?_⟩
  exact counterpart_converts hmap hyields (Nat.le_refl _) (List.subset_append_left _ _)

end Reshape.Conversion

namespace Reshape.Sample

open Conversion

/-- `parameter` is the parameter of `predicate`, and of the lambda in it. -/
def parameter : Parameter := ⟨0, some "o", .shape "Order"⟩

/-- `predicate` asks for a large order with a fragile part. -/
def predicate : Predicate where
  parameter := parameter
  body := .binary .and
    (.binary .greater (.member (.parameter parameter) ⟨"Total", .integer, "Order"⟩)
      (.constant (.integer 3) .integer))
    (.call .any (.member (.parameter parameter) ⟨"Parts", .list (.shape "Order"), "Order"⟩)
      [.lambda parameter
        (.binary .equal (.member (.parameter parameter) ⟨"Note", .string, "Order"⟩)
          (.constant (.string "fragile") .string))])

/-- `converted` is the counterpart of `predicate` over views, whose parts are items. -/
def converted : Predicate where
  parameter := ⟨1, some "o", .shape "View"⟩
  body := .binary .and
    (.binary .greater
      (.member (.parameter ⟨1, some "o", .shape "View"⟩) ⟨"Amount", .integer, "View"⟩)
      (.constant (.integer 3) .integer))
    (.call .any
      (.member (.parameter ⟨1, some "o", .shape "View"⟩)
        ⟨"Parts", .list (.shape "Item"), "View"⟩)
      [.lambda ⟨2, some "o", .shape "Item"⟩
        (.binary .equal
          (.member (.parameter ⟨2, some "o", .shape "Item"⟩) ⟨"Note", .string, "Item"⟩)
          (.constant (.string "fragile") .string))])

/-- `conversion` is what comes of converting `predicate` to views, without maps. -/
def conversion : Except Error Predicate × State Cache :=
  predicate.convert registry .default id 0 "View" 1 (.empty .unbounded)

/-- All parameters of `predicate` have the identity 0. -/
theorem predicate_olderThan : predicate.OlderThan 1 := by
  unfold Predicate.OlderThan
  decide

theorem conversion_eq : conversion = (.ok converted, conversion.2) := rfl

end Reshape.Sample
