import Reshape.Proofs.Document.RoundTrip
import Reshape.Proofs.Shape.Conformance

/-!
# Constants without a type

A constant of a document that has no type gets one from its value: a list that of its first item. It
is written down with this type, and under this type it is read again, as the same constant, exactly
when all items of the list are values of the type of the first (`untyped_constant_rebinds`). A list
of items of different types is written down as something that cannot be bound
(`mixed_constant_lost`).
-/

namespace Reshape

/-- `json.PlainThroughout` says that JSON is made of nulls, booleans, texts, 64-bit integers and
arrays of those. -/
inductive Json.PlainThroughout : Json → Prop where
  | single {json : Json} : json.isPlain → PlainThroughout json
  | array {items : List Json} : (∀ item ∈ items, PlainThroughout item) →
      PlainThroughout (.array items)

/-- `type.IsOfPlain` says that `type` is one that a plain value can have of itself. -/
inductive FieldType.IsOfPlain : FieldType → Prop where
  | any : IsOfPlain .any
  | boolean : IsOfPlain .boolean
  | integer : IsOfPlain .integer
  | string : IsOfPlain .string
  | list {element : FieldType} : IsOfPlain element → IsOfPlain (.list element)

/-- The type of plain JSON is read from its text. -/
theorem FieldType.IsOfPlain.nameable {type : FieldType} (h : type.IsOfPlain) : type.Nameable := by
  induction h with
  | list _ ih => exact ih
  | _ => trivial

namespace Value

variable {value result : Value} {type : FieldType} {json : Json}

/-- Plain JSON has a plain value, which is written as it was. -/
theorem plain_of_plainThroughout (h : json.PlainThroughout) :
    (ofPlainJson json).Plain ∧ (ofPlainJson json).toJson = json := by
  induction h with
  | @single json hplain =>
      cases json with
      | null => exact ⟨.null, rfl⟩
      | bool b => exact ⟨.boolean b, rfl⟩
      | string text => exact ⟨.string text, rfl⟩
      | number number =>
          obtain ⟨n, hn⟩ := Option.isSome_iff_exists.1 hplain
          rw [ofPlainJson, hn, toJson, Json.eq_integer_of_toInt64 hn]
          exact ⟨.integer n, rfl⟩
      | _ => cases hplain
  | @array items _ ih =>
      rw [ofPlainJson, ofPlainItems_eq, toJson, toJsonItems_eq, List.map_map]
      refine ⟨.list ?_, ?_⟩
      · intro item hitem
        obtain ⟨json, hjson, rfl⟩ := List.mem_map.1 hitem
        exact (ih json hjson).1
      · have hback : items.map (toJson ∘ ofPlainJson) = items.map id :=
          List.map_congr_left fun json hjson => (ih json hjson).2
        rw [hback, List.map_id]

/-- A plain value has the type of plain JSON. -/
theorem Plain.isOfPlain (h : value.Plain) : value.inferredType.IsOfPlain := by
  induction h with
  | null => exact .any
  | boolean b => exact .boolean
  | integer n => exact .integer
  | string text => exact .string
  | @list items _ ih =>
      cases items with
      | nil => exact .list .any
      | cons item rest => exact .list (ih item List.mem_cons_self)

/-- A list is read from its JSON when its items are read as themselves. -/
theorem ofJson_list_toJson_iff {registry : Registry} {element : FieldType} {items : List Value}
    (h : ∀ item ∈ items, ∀ result, ofJson? element item.toJson = .ok result ↔
      result = item ∧ registry.Conforms element item) :
    ofJson? (.list element) (Value.list items).toJson = .ok result ↔
      result = .list items ∧ registry.Conforms (.list element) (.list items) := by
  rw [toJson, toJsonItems_eq, ofJson_array, except_map_eq_ok]
  constructor
  · rintro ⟨results, hresults, rfl⟩
    rw [mapM_eq_ok, List.forall₂_map_left_iff] at hresults
    have hpairs : List.Forall₂ (fun item result => item = result) items results :=
      forall₂_imp_of_mem hresults fun item hitem result hread =>
        ((h item hitem result).1 hread).1.symm
    rw [List.forall₂_eq_eq_eq] at hpairs
    refine ⟨by rw [hpairs], .list fun item hitem => ?_⟩
    obtain ⟨result, _, hread⟩ := exists_right_of_forall₂ hresults hitem
    exact ((h item hitem result).1 hread).2
  · rintro ⟨rfl, hconforms⟩
    refine ⟨items, mapM_map_eq_ok fun item hitem => ?_, rfl⟩
    exact (h item hitem item).2 ⟨rfl, hconforms.items rfl item hitem⟩

/-- A plain value is read from its JSON under a type exactly when it is a value of the type, and
then as itself. -/
theorem Plain.ofJson_toJson_iff {registry : Registry} (h : value.Plain) (htype : type.IsOfPlain) :
    ofJson? type value.toJson = .ok result ↔ result = value ∧ registry.Conforms type value := by
  induction htype generalizing value result with
  | any =>
      rw [ofJson_any, h.ofPlainJson_toJson, Except.ok.injEq, eq_comm]
      simp [Registry.Conforms.any]
  | boolean =>
      constructor
      · intro hread
        cases h with
        | boolean b =>
            cases hread
            exact ⟨rfl, .boolean b⟩
        | _ => cases hread
      · rintro ⟨rfl, hconforms⟩
        cases hconforms with
        | boolean b => rfl
        | null hnull => cases hnull
  | integer =>
      constructor
      · intro hread
        cases h with
        | integer n =>
            rw [ofJson_integer_toJson n fun _ => rfl] at hread
            cases hread
            exact ⟨rfl, .integer n⟩
        | _ => cases hread
      · rintro ⟨rfl, hconforms⟩
        cases hconforms with
        | integer n => exact ofJson_integer_toJson n fun _ => rfl
        | null hnull => cases hnull
  | string =>
      constructor
      · intro hread
        cases h with
        | null =>
            cases hread
            exact ⟨rfl, .null rfl⟩
        | string text =>
            cases hread
            exact ⟨rfl, .string text⟩
        | _ => cases hread
      · rintro ⟨rfl, hconforms⟩
        cases hconforms with
        | string text => rfl
        | null => rfl
  | list _ ih =>
      cases h with
      | null =>
          -- an absent list is a value of every type of lists
          constructor
          · intro hread
            cases hread
            exact ⟨rfl, .null rfl⟩
          · rintro ⟨rfl, _⟩
            rfl
      | list hitems =>
          exact ofJson_list_toJson_iff fun item hitem _ => ih (hitems item hitem)
      | _ =>
          constructor
          · intro hread
            cases hread
          · rintro ⟨_, hconforms⟩
            cases hconforms

end Value

namespace Registry

/-- `registry.Uniform value` says that the items of a list are values of the type of the first. -/
def Uniform (registry : Registry) : Value → Prop
  | .list (first :: rest) => ∀ item ∈ first :: rest, registry.Conforms first.inferredType item
  | _ => True

/-- A plain value is a value of the type that it has of itself when it is uniform. -/
theorem conforms_inferredType_iff {registry : Registry} {value : Value} (h : value.Plain) :
    registry.Conforms value.inferredType value ↔ registry.Uniform value := by
  cases h with
  | null => exact iff_of_true (.any _) trivial
  | boolean b => exact iff_of_true (.boolean b) trivial
  | integer n => exact iff_of_true (.integer n) trivial
  | string text => exact iff_of_true (.string text) trivial
  | @list items _ =>
      cases items with
      | nil => exact iff_of_true (.list nofun) trivial
      | cons first rest => exact ⟨fun hconforms => hconforms.items rfl, .list⟩

end Registry

namespace Document

variable {registry : Registry} {scopes : List Parameter} {json : Json} {value : Value} {e : Expr}
  {start finish : Nat}

/-- A plain constant is bound again from its description when it is uniform, and then as itself. -/
theorem binds_described_iff (h : value.Plain) :
    Binds (bindNode registry scopes (Node.ofExpr (.ofValue value))) start e finish ↔
      e = .ofValue value ∧ finish = start ∧ registry.Uniform value := by
  have htype : readType value.inferredType.render = .ok value.inferredType :=
    readType_eq_ok.2 (FieldType.read_render h.isOfPlain.nameable)
  rw [Expr.ofValue, Node.ofExpr, binds_constant, bindConstant_some,
    ← Registry.conforms_inferredType_iff h]
  constructor
  · rintro ⟨⟨type, result, htype', hresult, rfl⟩, rfl⟩
    obtain rfl : value.inferredType = type := Except.ok.inj (htype.symm.trans htype')
    rw [readConstant_eq_ok, h.ofJson_toJson_iff h.isOfPlain] at hresult
    obtain ⟨rfl, hconforms⟩ := hresult
    exact ⟨rfl, rfl, hconforms⟩
  · rintro ⟨rfl, rfl, hconforms⟩
    refine ⟨⟨_, value, htype, ?_, rfl⟩, rfl⟩
    rw [readConstant_eq_ok, h.ofJson_toJson_iff h.isOfPlain]
    exact ⟨rfl, hconforms⟩

/-- A plain constant without a type is bound to a constant that is written down as it was, with the
type that its value has. From there it is bound again, to the same constant, exactly when all items
of a list are values of the type of the first. -/
theorem untyped_constant_rebinds (h : json.PlainThroughout) :
    ∃ value, value.Plain ∧
      Node.ofExpr (.ofValue value) = .constant json (some value.inferredType.render) ∧
      (∀ start e finish, Binds (bindNode registry scopes (.constant json none)) start e finish ↔
        e = .ofValue value ∧ finish = start) ∧
      ∀ start e finish,
        Binds (bindNode registry scopes (Node.ofExpr (.ofValue value))) start e finish ↔
          e = .ofValue value ∧ finish = start ∧ registry.Uniform value := by
  obtain ⟨hplain, hjson⟩ := Value.plain_of_plainThroughout h
  refine ⟨Value.ofPlainJson json, hplain, ?_, fun start e finish => ?_, fun start e finish => ?_⟩
  · rw [Expr.ofValue, Node.ofExpr, hjson]
  · rw [binds_constant, bindConstant_none]
    simp only [readConstant_eq_ok, Value.ofJson_any, Except.ok.injEq, exists_eq_left']
    rw [eq_comm (a := start)]
  · exact binds_described_iff hplain

end Document

namespace Sample

open Document

/-- `labels` lists two lists, one of a text and null and one of nothing. -/
def labels : Json := .array [.array [.string "fragile", .null], .array []]

/-- `labelValue` is the value of these lists. -/
def labelValue : Value := .list [.list [.string "fragile", .null], .list []]

theorem labels_plain : labels.PlainThroughout := by
  have hfirst : (Json.array [.string "fragile", .null]).PlainThroughout :=
    .array (List.forall_mem_cons.2 ⟨.single rfl, List.forall_mem_singleton.2 (.single rfl)⟩)
  exact .array (List.forall_mem_cons.2 ⟨hfirst, List.forall_mem_singleton.2 (.array nofun)⟩)

theorem labelValue_uniform : registry.Uniform labelValue := by
  have hfirst : registry.Conforms (.list .string) (.list [.string "fragile", .null]) :=
    .list (List.forall_mem_cons.2 ⟨.string _, List.forall_mem_singleton.2 (.null rfl)⟩)
  exact List.forall_mem_cons.2 ⟨hfirst, List.forall_mem_singleton.2 (.list nofun)⟩

/-- Lists of texts, among them null and no text at all, are bound again from their description. -/
theorem labels_rebind :
    labels.PlainThroughout ∧ registry.Uniform labelValue ∧
      Binds (bindNode registry [] (.constant labels none)) 0 (.ofValue labelValue) 0 ∧
      Binds (bindNode registry [] (Node.ofExpr (.ofValue labelValue))) 0 (.ofValue labelValue)
        0 := by
  have hbinds : Binds (bindNode registry [] (.constant labels none)) 0 (.ofValue labelValue) 0 :=
    rfl
  obtain ⟨value, _, _, hbound, hrebound⟩ := @untyped_constant_rebinds registry [] _ labels_plain
  -- the value that the theorem speaks of is the one that binding gives
  obtain ⟨heq, _⟩ := (hbound 0 _ 0).1 hbinds
  obtain ⟨rfl, _⟩ := Expr.constant.inj heq
  refine ⟨labels_plain, labelValue_uniform, hbinds, ?_⟩
  exact (hrebound 0 _ 0).2 ⟨rfl, rfl, labelValue_uniform⟩

/-- `mixed` is a list of a text and a number. -/
def mixed : Json := .array [.string "fragile", .number (.integer 2)]

theorem mixed_plain : mixed.PlainThroughout :=
  .array (List.forall_mem_cons.2 ⟨.single rfl, List.forall_mem_singleton.2 (.single rfl)⟩)

theorem readType_texts : readType "List<String>" = .ok (.list .string) :=
  readType_eq_ok.2 (@FieldType.read_render (.list .string) trivial)

/-- A text and a number are written down as a list of texts, which cannot be bound. -/
theorem mixed_constant_lost :
    mixed.PlainThroughout ∧
      (bindNode registry [] (.constant mixed none)).run 0 =
        .ok (.constant (.list [.string "fragile", .integer 2]) (.list .string), 0) ∧
      Node.ofExpr (.constant (.list [.string "fragile", .integer 2]) (.list .string)) =
        .constant mixed (some "List<String>") ∧
      (bindNode registry [] (.constant mixed (some "List<String>"))).run 0 = .error (invalid
        "Invalid constant [\"fragile\",2]: Type mismatch: expected String, found 2") := by
  refine ⟨mixed_plain, rfl, rfl, ?_⟩
  simp only [bindNode, bindConstant, readType_texts]
  rfl

end Sample

end Reshape
