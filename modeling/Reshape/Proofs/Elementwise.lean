import Mathlib.Data.List.Forall2
import Mathlib.Data.List.Nodup

/-!
# Steps and lists element by element

When steps that may fail succeed, one after the other and for all elements of a list in order; what
is found under a key that no two elements share; and which elements of two lists belong together:
those that stand in one place, or that a pointwise relation puts there.
-/

namespace Reshape

variable {α β ε : Type}

/-! ## Successful steps -/

section

variable {result : Except ε α} {b : β} {f : α → Except ε β} {as : List α} {bs : List β}

/-- A step and the next succeed when both do. -/
theorem except_bind_eq_ok {next : α → Except ε β} :
    (result >>= next) = .ok b ↔ ∃ a, result = .ok a ∧ next a = .ok b := by
  cases result with
  | error error =>
      constructor
      · rintro ⟨⟩
      · rintro ⟨_, ⟨⟩, _⟩
  | ok a =>
      show next a = .ok b ↔ _
      simp

theorem except_map_eq_ok {f : α → β} : result.map f = .ok b ↔ ∃ a, result = .ok a ∧ f a = b := by
  cases result with
  | error error =>
      constructor
      · rintro ⟨⟩
      · rintro ⟨_, ⟨⟩, _⟩
  | ok a =>
      show Except.ok (f a) = .ok b ↔ _
      simp

/-- A step succeeds for a whole list when it does for the elements one by one. -/
theorem mapM_eq_ok : as.mapM f = .ok bs ↔ List.Forall₂ (fun a b => f a = .ok b) as bs := by
  induction as generalizing bs with
  | nil =>
      rw [List.forall₂_nil_left_iff, List.mapM_nil]
      show Except.ok [] = .ok bs ↔ _
      rw [Except.ok.injEq, eq_comm]
  | cons a rest ih =>
      simp only [List.mapM_cons, except_bind_eq_ok, ih]
      constructor
      · rintro ⟨b, hb, others, hothers, h⟩
        cases h
        exact .cons hb hothers
      · rintro (_ | ⟨hb, hothers⟩)
        exact ⟨_, hb, _, hothers, rfl⟩

/-- A step that undoes a function on some elements undoes it on their list. -/
theorem mapM_map_eq_ok {g : β → α} (h : ∀ b ∈ bs, f (g b) = .ok b) :
    (bs.map g).mapM f = .ok bs := by
  rw [mapM_eq_ok, List.forall₂_map_left_iff, List.forall₂_same]
  exact h

end

/-! ## Elements with keys of their own -/

section

variable {κ : Type} [BEq κ] [LawfulBEq κ] {key : α → κ} {as : List α}

/-- Under a key stands the one element that has it. -/
theorem find?_eq_some_of_nodup (h : (as.map key).Nodup) {k : κ} {a : α} :
    as.find? (fun a => key a == k) = some a ↔ a ∈ as ∧ key a = k := by
  constructor
  · intro hfound
    exact ⟨List.mem_of_find?_eq_some hfound, eq_of_beq (List.find?_some hfound :)⟩
  · rintro ⟨hmem, rfl⟩
    have hsome : (as.find? fun other => key other == key a).isSome :=
      List.find?_isSome.2 ⟨a, hmem, beq_self_eq_true _⟩
    obtain ⟨found, hfound⟩ := Option.isSome_iff_exists.1 hsome
    have hkey : key found = key a := eq_of_beq (List.find?_some hfound :)
    rw [hfound, List.inj_on_of_nodup_map h (List.mem_of_find?_eq_some hfound) hmem hkey]

/-- No element has the same key as one that is found. -/
theorem filter_eq_toList_find? (h : (as.map key).Nodup) (k : κ) :
    as.filter (fun a => key a == k) = (as.find? fun a => key a == k).toList := by
  induction as with
  | nil => rfl
  | cons a rest ih =>
      obtain ⟨hnew, hrest⟩ := List.nodup_cons.1 h
      by_cases hkey : key a = k
      · have hnone : rest.filter (fun a => key a == k) = [] := by
          rw [List.filter_eq_nil_iff]
          intro other hother hsame
          exact hnew (List.mem_map.2 ⟨other, hother, (eq_of_beq hsame).trans hkey.symm⟩)
        simp [hkey, hnone]
      · simp [hkey, ih hrest]

/-- Under a key stands what the one entry of that key holds. -/
theorem lookup_eq_some_of_nodup {entries : List (κ × β)} (h : (entries.map Prod.fst).Nodup) {k : κ}
    {b : β} : entries.lookup k = some b ↔ (k, b) ∈ entries := by
  rw [List.lookup_eq_some_iff]
  constructor
  · rintro ⟨front, back, rfl, _⟩
    exact List.mem_append_right _ List.mem_cons_self
  · intro hmem
    obtain ⟨front, back, rfl⟩ := List.append_of_mem hmem
    rw [List.map_append, List.map_cons, List.nodup_middle] at h
    refine ⟨front, back, rfl, fun entry hentry => bne_iff_ne.2 ?_⟩
    rintro rfl
    exact (List.nodup_cons.1 h).1 (List.mem_append_left _ (List.mem_map.2 ⟨entry, hentry, rfl⟩))

end

/-! ## Elements in one place -/

/-- Each element of the second list is related to some element of the first. -/
theorem exists_left_of_forall₂ {related : α → β → Prop} {as : List α} {bs : List β}
    (h : List.Forall₂ related as bs) {b : β} (hb : b ∈ bs) : ∃ a ∈ as, related a b := by
  induction h with
  | nil => cases hb
  | cons hhead _ ih =>
      rcases List.mem_cons.1 hb with rfl | hb
      · exact ⟨_, List.mem_cons_self, hhead⟩
      · obtain ⟨a, ha, hrelated⟩ := ih hb
        exact ⟨a, List.mem_cons_of_mem _ ha, hrelated⟩

/-- Each element of the first list is related to some element of the second. -/
theorem exists_right_of_forall₂ {related : α → β → Prop} {as : List α} {bs : List β}
    (h : List.Forall₂ related as bs) {a : α} (ha : a ∈ as) : ∃ b ∈ bs, related a b :=
  exists_left_of_forall₂ (List.Forall₂.flip (R := flip related) h) ha

/-- Lists of related elements are the same list when related elements become the same. -/
theorem map_eq_of_forall₂ {γ : Type} {related : α → β → Prop} {f : α → γ} {g : β → γ}
    {as : List α} {bs : List β} (h : List.Forall₂ related as bs)
    (hsame : ∀ a b, related a b → f a = g b) : as.map f = bs.map g := by
  rw [← List.forall₂_eq_eq_eq, List.forall₂_map_left_iff, List.forall₂_map_right_iff]
  exact h.imp hsame

/-- A relation that implies another on the elements of the first list implies it on the lists. -/
theorem forall₂_imp_of_mem {related related' : α → β → Prop} {as : List α} {bs : List β}
    (h : List.Forall₂ related as bs) (himp : ∀ a ∈ as, ∀ b, related a b → related' a b) :
    List.Forall₂ related' as bs := by
  refine List.forall₂_iff_zip.2 ⟨h.length_eq, fun {a b} hmem => ?_⟩
  exact himp a (List.of_mem_zip hmem).1 b (List.forall₂_zip h hmem)

/-- Two relations that compose on the elements of the first list compose on the lists. -/
theorem forall₂_compose_of_mem {γ : Type} {first : α → β → Prop} {second : β → γ → Prop}
    {both : α → γ → Prop} {as : List α} {bs : List β} {cs : List γ}
    (hfirst : List.Forall₂ first as bs) (hsecond : List.Forall₂ second bs cs)
    (hboth : ∀ a ∈ as, ∀ b c, first a b → second b c → both a c) : List.Forall₂ both as cs := by
  induction hfirst generalizing cs with
  | nil =>
      cases hsecond
      exact .nil
  | cons hhead _ ih =>
      cases hsecond with
      | cons hhead' htail' =>
          refine .cons (hboth _ List.mem_cons_self _ _ hhead hhead') (ih htail' ?_)
          intro a ha
          exact hboth a (List.mem_cons_of_mem _ ha)

/-- When every element is related to something, the list is related to a list. -/
theorem exists_forall₂_of_mem {related : α → β → Prop} {as : List α}
    (h : ∀ a ∈ as, ∃ b, related a b) : ∃ bs, List.Forall₂ related as bs := by
  induction as with
  | nil => exact ⟨[], .nil⟩
  | cons a rest ih =>
      obtain ⟨b, hb⟩ := h a List.mem_cons_self
      obtain ⟨bs, hbs⟩ := ih fun a ha => h a (List.mem_cons_of_mem _ ha)
      exact ⟨b :: bs, .cons hb hbs⟩

/-- The elements in one place of related lists are related, if there are any. -/
theorem rel_getElem?_of_forall₂ {related : α → β → Prop} {as : List α} {bs : List β}
    (h : List.Forall₂ related as bs) (place : Nat) :
    Option.Rel related as[place]? bs[place]? := by
  induction h generalizing place with
  | nil => exact .none
  | cons hhead _ ih =>
      cases place with
      | zero => exact .some hhead
      | succ place => exact ih place

/-- Each element of the second of two lists of one length is paired with one of the first. -/
theorem exists_mem_zip {as : List α} {bs : List β} (hlength : as.length = bs.length) {b : β}
    (hb : b ∈ bs) : ∃ a, (a, b) ∈ as.zip bs := by
  rw [← List.map_snd_zip (Nat.le_of_eq hlength.symm)] at hb
  obtain ⟨⟨a, _⟩, hmem, rfl⟩ := List.mem_map.1 hb
  exact ⟨a, hmem⟩

/-- Each binding of the second of two lists with the same names is paired with one of the first. -/
theorem exists_binding_mem_zip {bindings : List (String × α)} {bindings' : List (String × β)}
    (hnames : bindings.map Prod.fst = bindings'.map Prod.fst) {b' : String × β}
    (hb' : b' ∈ bindings') : ∃ b, (b, b') ∈ bindings.zip bindings' :=
  exists_mem_zip (by simpa using congrArg List.length hnames) hb'

end Reshape
