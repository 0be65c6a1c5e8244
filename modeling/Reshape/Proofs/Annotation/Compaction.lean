import Mathlib.Data.List.Basic
import Reshape.Proofs.Annotation.Agreement

/-!
# What compaction drops

`dropEarliest` takes out as many items as it is told, as long as there are any, and none of them is
later than one that stays, whatever is chosen among items of one time. Compaction drops the entries
that are no longer alive, and then the earliest of the others (`compacted_compacts`); how many stay
is `length_compacted`.
-/

namespace Reshape

section

variable {α : Type} {time : α → Nat} {choice : Nat → Nat} {p : α → Bool} {n : Nat} {items : List α}

/-- Exactly one item is taken out, whichever it is. -/
theorem length_eraseNthP {item : α} (hitem : item ∈ items) (hp : p item) (n : Nat) :
    (eraseNthP p n items).length + 1 = items.length := by
  induction items generalizing item n with
  | nil => cases hitem
  | cons head rest ih =>
      rw [eraseNthP]
      split
      · rfl
      · rename_i hlast
        rw [List.length_cons, List.length_cons]
        rcases List.mem_cons.1 hitem with rfl | hitem
        · -- the item itself stays, so that another one of its kind follows
          have hmore : rest.any p := by
            by_contra hnone
            exact hlast ⟨hp, Or.inr hnone⟩
          obtain ⟨other, hother, hpother⟩ := List.any_eq_true.1 hmore
          rw [ih hother hpother _]
        · rw [ih hitem hp _]

/-- As many items are dropped as there should be, as long as there are any. -/
theorem length_dropEarliest (time : α → Nat) (choice : Nat → Nat) (n : Nat) (items : List α) :
    (dropEarliest time choice n items).length = items.length - n := by
  induction n generalizing items with
  | zero => rfl
  | succ n ih =>
      rw [dropEarliest]
      split
      · rename_i earliest hearliest
        obtain ⟨item, hitem, htime⟩ := List.mem_map.1 (List.min?_mem hearliest)
        have hlength := length_eraseNthP (p := fun item => time item == earliest) hitem
          (by simp [htime]) (choice n)
        rw [ih]
        omega
      · rename_i hnone
        rw [List.min?_eq_none_iff, List.map_eq_nil_iff] at hnone
        rw [hnone, List.length_nil, Nat.zero_sub]

/-- Of two items of one time either may go. -/
example : dropEarliest (fun _ : String => 0) (fun _ => 0) 1 ["a", "b"] = ["b"] ∧
    dropEarliest (fun _ : String => 0) (fun _ => 1) 1 ["a", "b"] = ["a"] :=
  ⟨rfl, rfl⟩

end

namespace Cache

variable {bound : Bound} {now : Nat} {entries : List CacheEntry}

/-- `expired bound now entries` are the entries that are no longer alive. -/
def expired (bound : Bound) (now : Nat) (entries : List CacheEntry) : List CacheEntry :=
  entries.filter fun entry => !isLive bound now entry

/-- An entry is alive or has expired. -/
theorem length_live (bound : Bound) (now : Nat) (entries : List CacheEntry) :
    (entries.filter (isLive bound now)).length + (expired bound now entries).length =
      entries.length :=
  (entries.length_eq_length_filter_add (isLive bound now)).symm

/-- Compaction drops as many entries as the target says, or more if more are no longer alive. -/
theorem length_compacted (bound : Bound) (choice : Nat → Nat) (now : Nat)
    (entries : List CacheEntry) :
    (compacted bound choice now entries).length =
      entries.length - max bound.target (expired bound now entries).length := by
  have hlive := length_live bound now entries
  rw [compacted, length_dropEarliest]
  omega

end Cache

end Reshape
