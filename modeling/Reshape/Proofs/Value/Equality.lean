import Mathlib.Data.List.Perm.Subperm
import Reshape.Proofs.Decimal.Rational
import Reshape.Proofs.Elementwise
import Reshape.Proofs.Entries
import Reshape.Value.Equality

/-!
# Sameness is an equivalence

`Value.same` relates every value to itself, in both directions or in neither, and through a third
value (`DistinctFields.same_self`, `DistinctFields.same_comm`, `DistinctFields.same_trans`). Fields
of records are looked up by name, so records must have each field once (`Value.DistinctFields`), as
they do when their fields are set one by one (`DistinctFields.put`).
-/

namespace Reshape.Value

/-- `value.DistinctFields` says that the records in `value`, at every depth, have each of their
fields once. This is so for all records that come about by setting fields. -/
inductive DistinctFields : Value → Prop where
  | null : DistinctFields .null
  | boolean (b) : DistinctFields (.boolean b)
  | integer (n) : DistinctFields (.integer n)
  | decimal (d) : DistinctFields (.decimal d)
  | string (text) : DistinctFields (.string text)
  | dateTime (instant) : DistinctFields (.dateTime instant)
  | list {items : List Value} :
      (∀ item ∈ items, DistinctFields item) → DistinctFields (.list items)
  | record {shape : String} {fields : List (String × Value)} :
      (fields.map Prod.fst).Nodup → (∀ field ∈ fields, DistinctFields field.2) →
      DistinctFields (.record shape fields)

variable {a b c : Value}

/-- Setting a field of a record keeps each of its fields once. -/
theorem DistinctFields.put {shape : String} {fields : List (String × Value)}
    (h : (Value.record shape fields).DistinctFields) (name : String) (ha : a.DistinctFields) :
    (Value.record shape (Entries.put name a fields)).DistinctFields := by
  cases h with
  | record hnodup hfields =>
      refine .record (Entries.nodup_put hnodup) fun field hfield => ?_
      rcases Entries.mem_of_mem_put hfield with rfl | hfield
      · exact ha
      · exact hfields field hfield

/-! ## Items and fields -/

/-- Lists are the same when they are item by item. -/
theorem sameItems_iff {as bs : List Value} :
    sameItems as bs ↔ List.Forall₂ (fun a b => a.same b = true) as bs := by
  induction as generalizing bs with
  | nil => cases bs <;> simp [sameItems]
  | cons a rest ih => cases bs <;> simp [sameItems, ih]

/-- Fields are the same when each has a field of its name that is. -/
theorem sameFields_iff {as bs : List (String × Value)} :
    sameFields as bs ↔ ∀ name a, (name, a) ∈ as → ∃ b, bs.lookup name = some b ∧ a.same b := by
  induction as with
  | nil => simp [sameFields]
  | cons field rest ih =>
      obtain ⟨name, a⟩ := field
      rw [sameFields, Bool.and_eq_true, ih]
      constructor
      · rintro ⟨hfirst, hrest⟩ sought value hmem
        rcases List.mem_cons.1 hmem with heq | hmem
        · cases heq
          split at hfirst
          · rename_i b hb
            exact ⟨b, hb, hfirst⟩
          · cases hfirst
        · exact hrest sought value hmem
      · intro hall
        obtain ⟨b, hb, hsame⟩ := hall name a List.mem_cons_self
        refine ⟨?_, fun sought value hmem => hall sought value (List.mem_cons_of_mem _ hmem)⟩
        rw [hb]
        exact hsame

/-- Records are the same when they have one shape and as many fields, which are the same. -/
theorem same_record {shape shape' : String} {as bs : List (String × Value)} :
    (record shape as).same (record shape' bs) ↔
      shape = shape' ∧ as.length = bs.length ∧
        ∀ name a, (name, a) ∈ as → ∃ b, bs.lookup name = some b ∧ a.same b := by
  rw [same, Bool.and_eq_true, Bool.and_eq_true, beq_iff_eq, beq_iff_eq, sameFields_iff, and_assoc]

/-- When each field of a record is found in another of as many fields, the other has no further
fields. -/
theorem names_subset {as bs : List (String × Value)} (hnodup : (as.map Prod.fst).Nodup)
    (hlength : as.length = bs.length)
    (h : ∀ name a, (name, a) ∈ as → ∃ b, bs.lookup name = some b) :
    bs.map Prod.fst ⊆ as.map Prod.fst := by
  have hsubset : as.map Prod.fst ⊆ bs.map Prod.fst := by
    intro name hname
    obtain ⟨⟨_, a⟩, hmem, rfl⟩ := List.mem_map.1 hname
    obtain ⟨b, hb⟩ := h _ a hmem
    exact List.mem_map.2 ⟨(_, b), Entries.mem_of_lookup hb, rfl⟩
  have hperm : (as.map Prod.fst).Perm (bs.map Prod.fst) :=
    (hnodup.subperm hsubset).perm_of_length_le (by simp [hlength])
  exact hperm.symm.subset

/-! ## The laws -/

/-- A value is the same as itself. -/
theorem DistinctFields.same_self (h : a.DistinctFields) : a.same a := by
  induction h with
  | list _ ih =>
      rw [same, sameItems_iff]
      exact List.forall₂_same.2 ih
  | record hnodup _ ih =>
      refine same_record.2 ⟨rfl, rfl, fun name a hmem => ⟨a, ?_, ih _ hmem⟩⟩
      exact (lookup_eq_some_of_nodup hnodup).2 hmem
  | decimal d => rw [same, Decimal.sameNumber_eq, decide_eq_true rfl]
  | _ => simp [same]

/-- Of two values that are the same, the second is the same as the first. -/
theorem DistinctFields.same_symm (ha : a.DistinctFields) (hb : b.DistinctFields)
    (h : a.same b) : b.same a := by
  induction ha generalizing b with
  | null | boolean | integer | string | dateTime => cases b <;> simp_all [same]
  | decimal => cases b <;> simp_all [same, Decimal.sameNumber_eq]
  | list _ ih =>
      cases hb with
      | list hitems =>
          rw [same, sameItems_iff] at h ⊢
          refine List.Forall₂.flip (List.forall₂_iff_zip.2 ⟨h.length_eq, fun {a b} hmem => ?_⟩)
          obtain ⟨ha, hb⟩ := List.of_mem_zip hmem
          exact ih a ha (hitems b hb) (List.forall₂_zip h hmem)
      | _ => cases h
  | record hnodup _ ih =>
      cases hb with
      | record hnodup' hfields =>
          obtain ⟨rfl, hlength, hall⟩ := same_record.1 h
          refine same_record.2 ⟨rfl, hlength.symm, fun name b hmem => ?_⟩
          -- there are no fewer fields in the first record, so this one is among them
          have hname := names_subset hnodup hlength
            (fun name a ha => (hall name a ha).imp fun _ hb => hb.1) (List.mem_map_of_mem hmem)
          obtain ⟨⟨_, a⟩, ha, rfl⟩ := List.mem_map.1 hname
          obtain ⟨b', hb', hsame⟩ := hall _ a ha
          rw [(lookup_eq_some_of_nodup hnodup').2 hmem] at hb'
          obtain rfl := Option.some.inj hb'
          exact ⟨a, (lookup_eq_some_of_nodup hnodup).2 ha, ih _ ha (hfields _ hmem) hsame⟩
      | _ => cases h

/-- Whether values are the same does not depend on their order. -/
theorem DistinctFields.same_comm (ha : a.DistinctFields) (hb : b.DistinctFields) :
    a.same b = b.same a :=
  Bool.eq_iff_iff.2 ⟨ha.same_symm hb, hb.same_symm ha⟩

/-- Values that are the same as a third are the same. -/
theorem DistinctFields.same_trans (ha : a.DistinctFields) (hab : a.same b) (hbc : b.same c) :
    a.same c := by
  induction ha generalizing b c with
  | null | boolean | integer | string | dateTime => cases b <;> cases c <;> simp_all [same]
  | decimal => cases b <;> cases c <;> simp_all [same, Decimal.sameNumber_eq]
  | list _ ih =>
      cases b with
      | list =>
          cases c with
          | list =>
              rw [same, sameItems_iff] at hab hbc ⊢
              exact forall₂_compose_of_mem hab hbc fun a ha _ _ hab hbc => ih a ha hab hbc
          | _ => cases hbc
      | _ => cases hab
  | record _ _ ih =>
      cases b with
      | record =>
          cases c with
          | record =>
              obtain ⟨rfl, hlength, hfirst⟩ := same_record.1 hab
              obtain ⟨rfl, hlength', hsecond⟩ := same_record.1 hbc
              refine same_record.2 ⟨rfl, hlength.trans hlength', fun name a ha => ?_⟩
              obtain ⟨b, hb, hab⟩ := hfirst name a ha
              obtain ⟨c, hc, hbc⟩ := hsecond name b (Entries.mem_of_lookup hb)
              exact ⟨c, hc, ih _ ha hab hbc⟩
          | _ => cases hbc
      | _ => cases hab

end Reshape.Value
