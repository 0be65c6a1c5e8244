import Reshape.Conversion.Options

/-!
# Entries set one after the other

Member maps come about by setting entries one after the other, and so do the records that
initializers make. The last entry of each name counts: `lookup_foldl`.
-/

namespace Reshape

namespace Entries

variable {α : Type} {name : String} {value : α} {entries : List (String × α)}

/-- What is found under a name is an entry of that name. -/
theorem mem_of_lookup (h : entries.lookup name = some value) : (name, value) ∈ entries := by
  obtain ⟨front, back, rfl, _⟩ := List.lookup_eq_some_iff.1 h
  exact List.mem_append_right _ List.mem_cons_self

/-- An entry is found when all entries of its name hold the same. -/
theorem lookup_of_mem (hmem : (name, value) ∈ entries)
    (hsame : ∀ other, (name, other) ∈ entries → other = value) :
    entries.lookup name = some value := by
  have hsome : (entries.lookup name).isSome :=
    List.lookup_isSome_iff.2 ⟨_, hmem, beq_self_eq_true name⟩
  obtain ⟨found, hfound⟩ := Option.isSome_iff_exists.1 hsome
  rw [hfound, hsame found (mem_of_lookup hfound)]

theorem mem_of_mem_put {entry : String × α} (h : entry ∈ put name value entries) :
    entry = (name, value) ∨ entry ∈ entries := by
  induction entries with
  | nil => exact Or.inl (List.mem_singleton.1 h)
  | cons first rest ih =>
      rw [put] at h
      split at h
      · exact (List.mem_cons.1 h).imp_right (List.mem_cons_of_mem _)
      · rcases List.mem_cons.1 h with rfl | h
        · exact Or.inr List.mem_cons_self
        · exact (ih h).imp_right (List.mem_cons_of_mem _)

/-- Setting an entry keeps the names apart. -/
theorem nodup_put (h : (entries.map Prod.fst).Nodup) :
    ((put name value entries).map Prod.fst).Nodup := by
  induction entries with
  | nil => simp [put]
  | cons first rest ih =>
      obtain ⟨hnew, hrest⟩ := List.nodup_cons.1 h
      rw [put]
      split
      · rename_i hname
        exact List.nodup_cons.2 ⟨hname ▸ hnew, hrest⟩
      · rename_i hname
        refine List.nodup_cons.2 ⟨fun hmem => ?_, ih hrest⟩
        obtain ⟨entry, hentry, hsame⟩ := List.mem_map.1 hmem
        rcases mem_of_mem_put hentry with rfl | hentry
        · exact hname hsame.symm
        · exact hnew (List.mem_map.2 ⟨entry, hentry, hsame⟩)

/-- Of entries that are set one after the other, the last of a name is found under it, whatever
place setting an entry puts it in. -/
theorem lookup_foldl {set : String → α → List (String × α) → List (String × α)}
    (hset : ∀ name sought value entries, (set name value entries).lookup sought =
      if sought = name then some value else entries.lookup sought)
    (pairs entries : List (String × α)) (sought : String) :
    (pairs.foldl (fun entries pair => set pair.1 pair.2 entries) entries).lookup sought =
      (pairs.reverse.lookup sought).or (entries.lookup sought) := by
  induction pairs generalizing entries with
  | nil => rfl
  | cons pair rest ih =>
      rw [List.foldl_cons, ih, hset, List.reverse_cons, List.lookup_append, lookup_entry_cons]
      split
      · rw [Option.or_assoc]
        rfl
      · rw [Option.or_assoc]
        rfl

theorem lookup_foldl_put (pairs entries : List (String × α)) (sought : String) :
    (pairs.foldl (fun entries pair => put pair.1 pair.2 entries) entries).lookup sought =
      (pairs.reverse.lookup sought).or (entries.lookup sought) :=
  lookup_foldl lookup_put pairs entries sought

/-- Entries that are set one after the other are among those that were set. -/
theorem mem_of_mem_foldl_put {pairs : List (String × α)} {entry : String × α}
    (h : entry ∈ pairs.foldl (fun entries pair => put pair.1 pair.2 entries) entries) :
    entry ∈ pairs ∨ entry ∈ entries := by
  induction pairs generalizing entries with
  | nil => exact Or.inr h
  | cons pair rest ih =>
      rcases ih h with h | h
      · exact Or.inl (List.mem_cons_of_mem _ h)
      · rcases mem_of_mem_put h with rfl | h
        · exact Or.inl List.mem_cons_self
        · exact Or.inr h

end Entries

namespace MemberMap

variable {name target : String} {pairs : List (String × String)}

/-- A map made of pairs has no other entries. -/
theorem mem_of_mem_ofPairs {entry : String × String} (h : entry ∈ (ofPairs pairs).entries) :
    entry ∈ pairs := by
  rcases Entries.mem_of_mem_foldl_put h with h | h
  · exact h
  · cases h

/-- A map made of pairs maps a name as they all do. -/
theorem target?_ofPairs (hmem : (name, target) ∈ pairs)
    (hsame : ∀ other, (name, other) ∈ pairs → other = target) :
    (ofPairs pairs).target? name = some target := by
  rw [target?, ofPairs, Entries.lookup_foldl_put,
    Entries.lookup_of_mem (List.mem_reverse.2 hmem)
      fun other hother => hsame other (List.mem_reverse.1 hother)]
  rfl

/-- `map.options` are the options that have the map, no custom map, and fail on an access without
counterpart. -/
def options (map : MemberMap) : Options := ⟨some map, none, .throw⟩

end MemberMap

end Reshape
