import Reshape.Annotation.Cache
import Reshape.Conversion.Task

/-!
# Caches that agree with a table

A cache agrees with an annotation table when every entry of the table's scope holds what the table
answers. An operation may drop entries, refresh them, and add answers of a table, so agreement is
kept; and a lookup through a cache that agrees answers like the table itself (`cached_faithful`).
-/

namespace Reshape

section

variable {α : Type}

/-- Taking out an item keeps the others in their order. -/
theorem eraseNthP_sublist (p : α → Bool) (n : Nat) (items : List α) :
    (eraseNthP p n items).Sublist items := by
  induction items generalizing n with
  | nil => exact .refl []
  | cons item rest ih =>
      rw [eraseNthP]
      split
      · exact List.sublist_cons_self item rest
      · exact (ih _).cons_cons item

/-- Dropping items keeps the others in their order. -/
theorem dropEarliest_sublist (time : α → Nat) (choice : Nat → Nat) (n : Nat) (items : List α) :
    (dropEarliest time choice n items).Sublist items := by
  induction n generalizing items with
  | zero => exact .refl items
  | succ n ih =>
      rw [dropEarliest]
      split
      · exact (ih _).trans (eraseNthP_sublist _ _ items)
      · exact List.nil_sublist items

end

namespace Cache

/-- `later.KnownFrom earlier` says that `later` remembers nothing that `earlier` did not. -/
def KnownFrom (later earlier : List CacheEntry) : Prop :=
  ∀ entry ∈ later, ∃ old ∈ earlier, old.key = entry.key ∧ old.answer = entry.answer

/-- Some of the entries are known from all of them. -/
theorem knownFrom_of_subset {later earlier : List CacheEntry}
    (h : ∀ entry ∈ later, entry ∈ earlier) : KnownFrom later earlier :=
  fun entry hentry => ⟨entry, h entry hentry, rfl, rfl⟩

/-- Noting that an entry was used changes no answer. -/
theorem knownFrom_touch (key : CacheKey) (now : Nat) (entries : List CacheEntry) :
    KnownFrom (touch key now entries) entries := by
  intro entry hentry
  obtain ⟨old, hold, rfl⟩ := List.mem_map.1 hentry
  refine ⟨old, hold, ?_⟩
  split
  · exact ⟨rfl, rfl⟩
  · exact ⟨rfl, rfl⟩

/-- Compaction keeps some of the entries, in their order. -/
theorem compacted_sublist (bound : Bound) (choice : Nat → Nat) (now : Nat)
    (entries : List CacheEntry) : (compacted bound choice now entries).Sublist entries :=
  (dropEarliest_sublist _ _ _ _).trans List.filter_sublist

variable {cache : Cache} {clock : Clock} {table : AnnotationTable}

/-- The entry of a key is an entry, and has that key. -/
theorem mem_of_cached? {key : CacheKey} {entry : CacheEntry} (h : cache.cached? key = some entry) :
    entry ∈ cache.entries ∧ entry.key = key :=
  ⟨List.mem_of_find?_eq_some h, by simpa using List.find?_some h⟩

/-- What is found in a cache is the answer of an entry of that key. -/
theorem mem_of_get {key : CacheKey} {answer : Option String}
    (h : (cache.get clock key).1 = some answer) :
    ∃ entry ∈ cache.entries, entry.key = key ∧ entry.answer = answer := by
  rw [get] at h
  split at h
  · obtain ⟨entry, hentry, rfl⟩ := Option.map_eq_some_iff.1 h
    obtain ⟨hmem, hkey⟩ := mem_of_cached? hentry
    exact ⟨entry, hmem, hkey, rfl⟩
  · dsimp only at h
    split at h
    · cases h
    · rename_i entry hentry
      obtain ⟨hmem, hkey⟩ := mem_of_cached? hentry
      split at h
      · cases h
        exact ⟨entry, hmem, hkey, rfl⟩
      · cases h

/-- Looking into a cache adds nothing to it. -/
theorem knownFrom_get (cache : Cache) (clock : Clock) (key : CacheKey) :
    KnownFrom (cache.get clock key).2.entries cache.entries := by
  rw [get]
  split
  · exact knownFrom_of_subset fun _ h => h
  · dsimp only
    split
    · exact knownFrom_of_subset fun _ h => h
    · split
      · exact knownFrom_touch _ _ _
      · exact knownFrom_of_subset fun _ h => (List.mem_filter.1 h).1

/-- Storing an answer adds nothing else. -/
theorem mem_of_mem_insert {key : CacheKey} {answer : Option String} {entry : CacheEntry}
    (h : entry ∈ (cache.insert clock key answer).cache.entries) :
    entry ∈ cache.entries ∨ entry.key = key ∧ entry.answer = answer := by
  have hadded : ∀ {kept : List CacheEntry} {time : Nat}, (∀ e ∈ kept, e ∈ cache.entries) →
      entry ∈ kept ++ [⟨key, answer, time⟩] →
      entry ∈ cache.entries ∨ entry.key = key ∧ entry.answer = answer := by
    intro kept time hkept hentry
    rcases List.mem_append.1 hentry with hentry | hentry
    · exact Or.inl (hkept entry hentry)
    · cases List.mem_singleton.1 hentry
      exact Or.inr ⟨rfl, rfl⟩
  rw [insert] at h
  split at h
  · exact hadded (fun _ h => h) h
  · dsimp only at h
    split at h
    · exact hadded (fun _ h => (compacted_sublist _ _ _ _).subset h) h
    · exact hadded (fun _ h => h) h

/-- After a lookup a cache remembers what it did before, and what the table answered. -/
theorem known_of_mem_lookup {field : FieldId} {entry : CacheEntry}
    (h : entry ∈ (cache.lookup clock table field).cache.entries) :
    (∃ old ∈ cache.entries, old.key = entry.key ∧ old.answer = entry.answer) ∨
      entry.key = ⟨table.scope, field⟩ ∧ entry.answer = table.mapsTo? field := by
  have hknown := knownFrom_get cache clock ⟨table.scope, field⟩
  rw [lookup] at h
  -- a hit stores nothing, and a miss the answer of the table
  split at h
  · rename_i hget
    rw [hget] at hknown
    exact Or.inl (hknown entry h)
  · rename_i hget
    rw [hget] at hknown
    rcases mem_of_mem_insert h with h | h
    · exact Or.inl (hknown entry h)
    · exact Or.inr h

/-- `cache.AgreesWith table` says that the entries of the table's scope hold what the table
answers. -/
def AgreesWith (cache : Cache) (table : AnnotationTable) : Prop :=
  ∀ entry ∈ cache.entries, entry.key.scope = table.scope →
    entry.answer = table.mapsTo? entry.key.field

/-- A cache that has seen nothing agrees with every table. -/
theorem empty_agreesWith (policy : CachePolicy) (table : AnnotationTable)
    (ties : Ties := fun _ _ => 0) : (empty policy ties).AgreesWith table := by
  intro entry hentry
  cases hentry

/-- A lookup through a cache that agrees with a table answers like the table. -/
theorem AgreesWith.lookup_result (h : cache.AgreesWith table) (field : FieldId) :
    (cache.lookup clock table field).result = table.mapsTo? field := by
  rw [lookup]
  split
  · rename_i answer after hget
    have hfound : (cache.get clock ⟨table.scope, field⟩).1 = some answer := by rw [hget]
    obtain ⟨entry, hentry, hkey, hanswer⟩ := mem_of_get hfound
    have hagrees := h entry hentry (by rw [hkey])
    rw [hkey] at hagrees
    exact hanswer.symm.trans hagrees
  · rfl

/-- A lookup in a table of the same answers or of another scope keeps agreement. -/
theorem AgreesWith.lookup {other : AnnotationTable} (h : cache.AgreesWith table)
    (hother : other.scope = table.scope → other.mapsTo? = table.mapsTo?) (field : FieldId) :
    (cache.lookup clock other field).cache.AgreesWith table := by
  intro entry hentry hscope
  rcases known_of_mem_lookup hentry with ⟨old, hold, hkey, hanswer⟩ | ⟨hkey, hanswer⟩
  · rw [← hanswer, ← hkey]
    exact h old hold (by rw [hkey, hscope])
  · rw [hkey] at hscope
    rw [hanswer, hkey, hother hscope]

end Cache

namespace AnnotationReader

variable {σ : Type}

/-- `reader.Faithful mapsTo? holds` says that the reader answers as `mapsTo?` does for as long as
the store has the property `holds`, and that reading keeps the property. -/
structure Faithful (reader : AnnotationReader σ) (mapsTo? : FieldId → Option String)
    (holds : σ → Prop) : Prop where
  answer : ∀ field store, holds store → (reader field store).1 = mapsTo? field
  keeps : ∀ field store, holds store → holds (reader field store).2.1

/-- A cache that agrees with a table is read like the table, and goes on agreeing. -/
theorem cached_faithful (clock : Clock) (table : AnnotationTable) :
    (cached clock table).Faithful table.mapsTo? fun cache => cache.AgreesWith table :=
  ⟨fun field _ h => h.lookup_result field, fun field _ h => h.lookup (fun _ => rfl) field⟩

end AnnotationReader

end Reshape
