import Reshape.Proofs.Annotation.Compaction
import Reshape.Proofs.Elementwise
import Reshape.Proofs.Shape.Registration

/-!
# Accounts of a cache

A cache that is only used through `Cache.lookup` and `Cache.prime` keeps account of what it did. The
lookups were either hits or misses, and every miss brought in an entry that either is still there
or was evicted. A bounded cache has no more entries than its limit, or one if the limit is zero
(`counters_agree`).

A lookup that misses leaves some of the old entries and adds one (`Stored`). Everything on misses is
read off that.
-/

namespace Reshape

/-- `policy.Frees` says that a full cache frees at least one entry. -/
def CachePolicy.Frees (policy : CachePolicy) : Prop :=
  ∀ bound, policy = .bounded bound → 1 ≤ bound.target

/-- Every share of a limit makes at least one entry to be freed. -/
theorem Bound.one_le_targetOf (sizeLimit : Nat) (share : Binary64) :
    1 ≤ targetOf sizeLimit share := by
  rw [targetOf]
  split
  · exact Nat.le_max_left _ _
  · split
    · exact Nat.le_refl 1
    · decide

/-- A `CacheUse` is a call made on a cache: the lookup of a field in a table, or priming with the
fields of a shape. -/
inductive CacheUse where
  | lookup (table : AnnotationTable) (field : FieldId)
  | prime (table : AnnotationTable) (shape : Shape)

namespace Cache

/-- `cache.primeShape clock table shape` primes a cache with the fields of a shape. -/
def primeShape (cache : Cache) (clock : Clock) (table : AnnotationTable) (shape : Shape) :
    Outcome Bool :=
  cache.prime clock table shape.name (shape.fields.map (·.id))

/-- `cache.after clock use` is the cache after a call. -/
def after (cache : Cache) (clock : Clock) : CacheUse → Cache
  | .lookup table field => (cache.lookup clock table field).cache
  | .prime table shape => (cache.primeShape clock table shape).cache

/-- `cache.run clock uses` is the cache after calls, one after the other. -/
def run (cache : Cache) (clock : Clock) : List CacheUse → Cache
  | [] => cache
  | use :: rest => (cache.after clock use).run clock rest

/-- `cache.lookups clock use` is the number of fields that a call looks up: all of the shape if it
primes a cache that was not primed with the shape. -/
def lookups (cache : Cache) (clock : Clock) : CacheUse → Nat
  | .lookup _ _ => 1
  | .prime table shape =>
    if (cache.primeShape clock table shape).result then shape.fields.length else 0

/-- `cache.lookupsOfRun clock uses` is the number of fields that calls look up. -/
def lookupsOfRun (cache : Cache) (clock : Clock) : List CacheUse → Nat
  | [] => 0
  | use :: rest => cache.lookups clock use + (cache.after clock use).lookupsOfRun clock rest

variable {cache : Cache} {clock : Clock} {table : AnnotationTable}

/-! ## Looking into a cache -/

/-- `cache.Tidy` says that no two entries have one key. -/
def Tidy (cache : Cache) : Prop := (cache.entries.map (·.key)).Nodup

/-- Noting that an entry was used keeps all keys. -/
theorem keys_touch (key : CacheKey) (now : Nat) (entries : List CacheEntry) :
    (touch key now entries).map (·.key) = entries.map (·.key) := by
  rw [touch, List.map_map]
  refine List.map_congr_left fun entry _ => ?_
  rw [Function.comp_apply]
  split
  · rfl
  · rfl

/-- Of a tidy cache one entry goes when that of a key is dropped. -/
theorem Tidy.length_filter_key (h : cache.Tidy) {key : CacheKey} {entry : CacheEntry}
    (hentry : cache.cached? key = some entry) :
    (cache.entries.filter fun entry => entry.key != key).length + 1 = cache.size := by
  have hone : (cache.entries.filter fun entry => entry.key == key).length = 1 := by
    rw [filter_eq_toList_find? h, show cache.entries.find? _ = some entry from hentry]
    rfl
  have hsplit := cache.entries.length_eq_length_filter_add fun entry => entry.key == key
  rw [size, hsplit, hone, Nat.add_comm]
  rfl

/-- `Restocked cache after` says that only the entries and evictions of a cache have changed, and
that the clock may have been read. -/
structure Restocked (cache after : Cache) : Prop where
  policy : after.policy = cache.policy
  markers : after.markers = cache.markers
  hits : after.hits = cache.hits
  misses : after.misses = cache.misses
  readings : cache.readings ≤ after.readings

/-- A look into a cache changes only entries and evictions, and may read the clock. -/
theorem restocked_get (cache : Cache) (clock : Clock) (key : CacheKey) :
    Restocked cache (cache.get clock key).2 := by
  rw [get]
  split
  · exact ⟨rfl, rfl, rfl, rfl, Nat.le_refl _⟩
  · dsimp only
    split
    · exact ⟨rfl, rfl, rfl, rfl, Nat.le_succ _⟩
    · split
      · exact ⟨rfl, rfl, rfl, rfl, Nat.le_succ _⟩
      · exact ⟨rfl, rfl, rfl, rfl, Nat.le_succ _⟩

/-- What is found stays, under the keys that there were. -/
theorem get_of_found {key : CacheKey} {answer : Option String}
    (h : (cache.get clock key).1 = some answer) :
    (cache.get clock key).2.entries.map (·.key) = cache.entries.map (·.key) ∧
      (cache.get clock key).2.evictions = cache.evictions := by
  rw [get] at h ⊢
  split at h
  · exact ⟨rfl, rfl⟩
  · dsimp only at h ⊢
    split at h
    · cases h
    · split at h
      · rename_i hlive
        rw [if_pos hlive]
        exact ⟨keys_touch _ _ _, rfl⟩
      · cases h

/-- When nothing is found, no entry of the key is left, and at most that one was evicted. An
unbounded cache evicts nothing. -/
theorem Tidy.get_of_missing (h : cache.Tidy) {key : CacheKey}
    (hmissing : (cache.get clock key).1 = none) :
    (cache.get clock key).2.entries = (cache.entries.filter fun entry => entry.key != key) ∧
      (cache.get clock key).2.evictions + (cache.get clock key).2.size =
        cache.evictions + cache.size ∧
      (cache.policy = .unbounded → (cache.get clock key).2.evictions = cache.evictions) := by
  have hall : cache.cached? key = none →
      cache.entries = cache.entries.filter fun entry => entry.key != key := by
    intro hnone
    refine (List.filter_eq_self.2 fun entry hentry => ?_).symm
    simpa [bne] using List.find?_eq_none.1 hnone entry hentry
  rw [get] at hmissing ⊢
  split at hmissing
  · exact ⟨hall (Option.map_eq_none_iff.1 hmissing), rfl, fun _ => rfl⟩
  · rename_i hpolicy
    dsimp only at hmissing ⊢
    split at hmissing
    · rename_i hnone
      exact ⟨hall hnone, rfl, fun _ => rfl⟩
    · rename_i entry hentry
      split at hmissing
      · cases hmissing
      · rename_i hexpired
        have hlength := h.length_filter_key hentry
        rw [if_neg hexpired]
        refine ⟨rfl, ?_, fun hunbounded => ?_⟩
        · show cache.evictions + 1 + (cache.entries.filter fun entry => entry.key != key).length =
            cache.evictions + cache.size
          omega
        · rw [hunbounded] at hpolicy
          cases hpolicy

/-! ## Lookups -/

/-- `Stored cache after kept entry` says what `after` has of `cache` when an entry was stored: the
entries `kept` and the new one. All others are counted as evicted, and as long as the cache has a
limit, there is room below it or as many have gone as the target says. -/
structure Stored (cache after : Cache) (kept : List CacheEntry) (entry : CacheEntry) : Prop where
  entries : after.entries = kept ++ [entry]
  sublist : kept.Sublist cache.entries
  evictions : after.evictions + kept.length = cache.evictions + cache.size
  unbounded : cache.policy = .unbounded → after.evictions = cache.evictions
  room : ∀ bound, cache.policy = .bounded bound →
    kept.length < bound.sizeLimit ∨ kept.length ≤ cache.size - bound.target

/-- Storing an answer changes only entries and evictions, and may read the clock. -/
theorem insert_stores (cache : Cache) (clock : Clock) (key : CacheKey) (answer : Option String) :
    Restocked cache (cache.insert clock key answer).cache ∧
      ∃ kept time, Stored cache (cache.insert clock key answer).cache kept ⟨key, answer, time⟩ := by
  rw [insert]
  split
  · rename_i hpolicy
    refine ⟨⟨rfl, rfl, rfl, rfl, Nat.le_refl _⟩, cache.entries, 0, rfl, .refl _, rfl,
      fun _ => rfl, ?_⟩
    intro bound hbound
    simp [hpolicy] at hbound
  · rename_i bound hpolicy
    dsimp only
    have hbounded : cache.policy ≠ .unbounded := by simp [hpolicy]
    split
    · have hlength := length_compacted bound (cache.ties cache.readings) (clock cache.readings)
        cache.entries
      have hle := (compacted_sublist bound (cache.ties cache.readings) (clock cache.readings)
        cache.entries).length_le
      refine ⟨⟨rfl, rfl, rfl, rfl, Nat.le_succ _⟩, _, _, rfl, compacted_sublist _ _ _ _, ?_,
        fun h => absurd h hbounded, fun other hother => Or.inr ?_⟩
      · simp only [size]
        omega
      · obtain rfl : bound = other := CachePolicy.bounded.inj (hpolicy.symm.trans hother)
        rw [hlength, size]
        omega
    · rename_i hroom
      refine ⟨⟨rfl, rfl, rfl, rfl, Nat.le_succ _⟩, cache.entries, _, rfl, .refl _, rfl,
        fun h => absurd h hbounded, fun other hother => Or.inl ?_⟩
      obtain rfl : bound = other := CachePolicy.bounded.inj (hpolicy.symm.trans hother)
      exact Nat.lt_of_not_le hroom

/-- A lookup that finds an answer counts a hit, and changes nothing else but the time of an
entry. -/
theorem lookup_of_found {field : FieldId} {answer : Option String}
    (h : (cache.get clock ⟨table.scope, field⟩).1 = some answer) :
    cache.lookup clock table field =
      ⟨answer, { (cache.get clock ⟨table.scope, field⟩).2 with
        hits := (cache.get clock ⟨table.scope, field⟩).2.hits + 1 }, []⟩ := by
  rw [lookup]
  split
  · rename_i found seen hget
    rw [hget] at h ⊢
    cases h
    rfl
  · rename_i hget
    rw [hget] at h
    cases h

/-- `cache.missed clock key` is the cache once a look under a key has been counted as a miss. -/
def missed (cache : Cache) (clock : Clock) (key : CacheKey) : Cache :=
  { (cache.get clock key).2 with misses := (cache.get clock key).2.misses + 1 }

/-- A lookup that finds nothing counts a miss, and stores the answer of the table. -/
theorem lookup_of_missing {field : FieldId}
    (h : (cache.get clock ⟨table.scope, field⟩).1 = none) :
    (cache.lookup clock table field).result = table.mapsTo? field ∧
      (cache.lookup clock table field).cache =
        ((cache.missed clock ⟨table.scope, field⟩).insert clock ⟨table.scope, field⟩
          (table.mapsTo? field)).cache := by
  rw [lookup, missed]
  split
  · rename_i hget
    rw [hget] at h
    cases h
  · rename_i hget
    rw [hget]
    exact ⟨rfl, rfl⟩

/-- `Looked cache after key answer` says what a lookup under `key` makes of a cache. It is a hit,
under the keys that there were, or it is a miss and stores the answer. -/
inductive Looked (cache after : Cache) (key : CacheKey) (answer : Option String) : Prop where
  | hit : after.entries.map (·.key) = cache.entries.map (·.key) → after.hits = cache.hits + 1 →
      after.misses = cache.misses → after.evictions = cache.evictions →
      Looked cache after key answer
  | miss {kept : List CacheEntry} {time : Nat} : Stored cache after kept ⟨key, answer, time⟩ →
      (∀ other ∈ kept, other.key ≠ key) → after.hits = cache.hits →
      after.misses = cache.misses + 1 → Looked cache after key answer

/-- Lookups change neither policy nor markers. -/
theorem lookup_same (cache : Cache) (clock : Clock) (table : AnnotationTable) (field : FieldId) :
    (cache.lookup clock table field).cache.policy = cache.policy ∧
      (cache.lookup clock table field).cache.markers = cache.markers := by
  have hget := restocked_get cache clock ⟨table.scope, field⟩
  cases hfound : (cache.get clock ⟨table.scope, field⟩).1 with
  | some answer =>
      rw [lookup_of_found hfound]
      exact ⟨hget.policy, hget.markers⟩
  | none =>
      rw [(lookup_of_missing hfound).2]
      obtain ⟨hinsert, -⟩ := insert_stores (cache.missed clock ⟨table.scope, field⟩) clock
        ⟨table.scope, field⟩ (table.mapsTo? field)
      exact ⟨hinsert.policy.trans hget.policy, hinsert.markers.trans hget.markers⟩

/-- What a lookup makes of a tidy cache. -/
theorem Tidy.lookup (h : cache.Tidy) (clock : Clock) (table : AnnotationTable) (field : FieldId) :
    Looked cache (cache.lookup clock table field).cache ⟨table.scope, field⟩
      (table.mapsTo? field) := by
  have hget := restocked_get cache clock ⟨table.scope, field⟩
  cases hfound : (cache.get clock ⟨table.scope, field⟩).1 with
  | some answer =>
      obtain ⟨hkeys, hevictions⟩ := get_of_found hfound
      rw [lookup_of_found hfound]
      exact .hit hkeys (congrArg (· + 1) hget.hits) hget.misses hevictions
  | none =>
      obtain ⟨hentries, hevictions, hunbounded⟩ := h.get_of_missing hfound
      rw [(lookup_of_missing hfound).2]
      obtain ⟨hinsert, kept, time, hstored⟩ := insert_stores
        (cache.missed clock ⟨table.scope, field⟩) clock ⟨table.scope, field⟩ (table.mapsTo? field)
      have hkept : kept.Sublist
          (cache.entries.filter fun entry => entry.key != ⟨table.scope, field⟩) := by
        rw [← hentries]
        exact hstored.sublist
      refine .miss ⟨hstored.entries, hkept.trans List.filter_sublist,
        hstored.evictions.trans hevictions, fun hpolicy => ?_, fun bound hbound => ?_⟩
        (fun other hother => ?_) (hinsert.hits.trans hget.hits)
        (hinsert.misses.trans (congrArg (· + 1) hget.misses))
      · exact (hstored.unbounded (hget.policy.trans hpolicy)).trans (hunbounded hpolicy)
      · -- there is no less room than before the entry of the key was dropped
        have hle : (cache.missed clock ⟨table.scope, field⟩).size ≤ cache.size := by
          rw [size, missed, hentries]
          exact List.length_filter_le _ _
        refine (hstored.room bound (hget.policy.trans hbound)).imp_right fun hroom => ?_
        exact Nat.le_trans hroom (Nat.sub_le_sub_right hle _)
      · simpa using (List.mem_filter.1 (hkept.subset hother)).2

/-! ## Priming -/

/-- `cache.IsPrimed clock scope shape` says that a marker of a shape still counts. -/
def IsPrimed (cache : Cache) (clock : Clock) (scope : Nat) (shape : String) : Prop :=
  (cache.marker? scope shape).any (isHonoured cache.policy (clock cache.readings))

/-- `cache.marked clock scope shape` is the cache with a new marker of a shape. -/
def marked (cache : Cache) (clock : Clock) (scope : Nat) (shape : String) : Cache :=
  let now := clock cache.readings
  { cache with
    readings := cache.readings + 1
    markers := mark scope shape now
      (cache.roomFor scope shape (cache.ties cache.readings) now) }

/-- Priming with a shape for which a marker counts only reads the clock. -/
theorem prime_of_primed {shape : String} (h : cache.IsPrimed clock table.scope shape)
    (fields : List FieldId) :
    (cache.prime clock table shape fields).result = false ∧
      (cache.prime clock table shape fields).cache =
        { cache with readings := cache.readings + 1 } := by
  rw [prime]
  dsimp only
  split
  · exact ⟨rfl, rfl⟩
  · rename_i hnot
    exact absurd h hnot

/-- Priming with any other shape leaves a marker and looks up its fields. -/
theorem prime_of_unprimed {shape : String} (h : ¬ cache.IsPrimed clock table.scope shape)
    (fields : List FieldId) :
    (cache.prime clock table shape fields).result = true ∧
      (cache.prime clock table shape fields).cache =
        ((cache.marked clock table.scope shape).lookupAll clock table fields).cache := by
  rw [prime]
  dsimp only
  split
  · rename_i hprimed
    exact absurd hprimed h
  · exact ⟨rfl, rfl⟩

/-! ## Accounts -/

/-- `cache.Balanced` says that the counters of a cache account for its entries, and that it keeps to
its policy. -/
structure Balanced (cache : Cache) : Prop where
  tidy : cache.Tidy
  entries : cache.size + cache.evictions = cache.misses
  unbounded : cache.policy = .unbounded → cache.evictions = 0
  limited : cache.policy.Frees → ∀ bound, cache.policy = .bounded bound →
    cache.size ≤ max 1 bound.sizeLimit

/-- A cache that has seen nothing is balanced. -/
theorem empty_balanced (policy : CachePolicy) (ties : Ties) : (empty policy ties).Balanced where
  tidy := List.nodup_nil
  entries := rfl
  unbounded _ := rfl
  limited _ _ _ := Nat.zero_le _

/-- A lookup keeps the balance. -/
theorem Balanced.lookup (h : cache.Balanced) (clock : Clock) (table : AnnotationTable)
    (field : FieldId) : (cache.lookup clock table field).cache.Balanced := by
  have hpolicy := (lookup_same cache clock table field).1
  cases h.tidy.lookup clock table field with
  | hit hkeys _ hmisses hevictions =>
      have hsize : (cache.lookup clock table field).cache.size = cache.size := by
        simpa [size] using congrArg List.length hkeys
      constructor
      · rw [Tidy, hkeys]
        exact h.tidy
      · rw [hsize, hevictions, hmisses]
        exact h.entries
      · rw [hpolicy, hevictions]
        exact h.unbounded
      · rw [hpolicy, hsize]
        exact h.limited
  | @miss kept time hstored hnew _ hmisses =>
      have hsize : (cache.lookup clock table field).cache.size = kept.length + 1 := by
        rw [size, hstored.entries, List.length_append, List.length_singleton]
      constructor
      · rw [Tidy, hstored.entries, List.map_append, List.nodup_append]
        refine ⟨(hstored.sublist.map _).nodup h.tidy, List.nodup_singleton _, ?_⟩
        intro key hkey other hother
        obtain ⟨entry, hentry, rfl⟩ := List.mem_map.1 hkey
        rw [List.map_singleton, List.mem_singleton] at hother
        rw [hother]
        exact hnew entry hentry
      · have hbefore := h.entries
        have hevictions := hstored.evictions
        omega
      · rw [hpolicy]
        intro hunbounded
        rw [hstored.unbounded hunbounded]
        exact h.unbounded hunbounded
      · rw [hpolicy]
        intro hfrees bound hbound
        have hbefore := h.limited hfrees bound hbound
        have htarget := hfrees bound hbound
        have hroom := hstored.room bound hbound
        omega

/-- A lookup is counted once. -/
theorem lookup_counted (h : cache.Tidy) (clock : Clock) (table : AnnotationTable)
    (field : FieldId) :
    (cache.lookup clock table field).cache.hits + (cache.lookup clock table field).cache.misses =
      cache.hits + cache.misses + 1 := by
  cases h.lookup clock table field with
  | hit _ hhits hmisses _ => omega
  | miss _ _ hhits hmisses => omega

/-- Looking up fields keeps the balance, and every field is counted once. -/
theorem Balanced.lookupAll (h : cache.Balanced) (clock : Clock) (table : AnnotationTable)
    (fields : List FieldId) :
    (cache.lookupAll clock table fields).cache.Balanced ∧
      (cache.lookupAll clock table fields).cache.hits +
          (cache.lookupAll clock table fields).cache.misses =
        cache.hits + cache.misses + fields.length := by
  induction fields generalizing cache with
  | nil => exact ⟨h, rfl⟩
  | cons field rest ih =>
      obtain ⟨hbalanced, hcounted⟩ := ih (h.lookup clock table field)
      have hfirst := lookup_counted h.tidy clock table field
      refine ⟨hbalanced, ?_⟩
      rw [Cache.lookupAll]
      dsimp only
      rw [hcounted, hfirst, List.length_cons]
      omega

/-- Every call keeps the balance, and is counted as many times as it looks up a field. -/
theorem Balanced.after (h : cache.Balanced) (clock : Clock) (use : CacheUse) :
    (cache.after clock use).Balanced ∧
      (cache.after clock use).hits + (cache.after clock use).misses =
        cache.hits + cache.misses + cache.lookups clock use := by
  cases use with
  | lookup table field =>
      exact ⟨h.lookup clock table field, lookup_counted h.tidy clock table field⟩
  | prime table shape =>
      rw [Cache.after, lookups, primeShape]
      by_cases hprimed : cache.IsPrimed clock table.scope shape.name
      · obtain ⟨hresult, hcache⟩ := prime_of_primed hprimed (shape.fields.map (·.id))
        rw [hresult, hcache]
        exact ⟨⟨h.tidy, h.entries, h.unbounded, h.limited⟩, rfl⟩
      · obtain ⟨hresult, hcache⟩ := prime_of_unprimed hprimed (shape.fields.map (·.id))
        have hmarked : (cache.marked clock table.scope shape.name).Balanced :=
          ⟨h.tidy, h.entries, h.unbounded, h.limited⟩
        obtain ⟨hbalanced, hcounted⟩ := hmarked.lookupAll clock table (shape.fields.map (·.id))
        rw [hresult, hcache, if_pos rfl]
        refine ⟨hbalanced, ?_⟩
        rwa [List.length_map] at hcounted

/-- A run of calls keeps the balance, and is counted as many times as fields are looked up. -/
theorem Balanced.run (h : cache.Balanced) (clock : Clock) (uses : List CacheUse) :
    (cache.run clock uses).Balanced ∧
      (cache.run clock uses).hits + (cache.run clock uses).misses =
        cache.hits + cache.misses + cache.lookupsOfRun clock uses := by
  induction uses generalizing cache with
  | nil => exact ⟨h, rfl⟩
  | cons use rest ih =>
      obtain ⟨hafter, hfirst⟩ := h.after clock use
      obtain ⟨hbalanced, hcounted⟩ := ih hafter
      rw [Cache.run, lookupsOfRun]
      refine ⟨hbalanced, ?_⟩
      omega

/-- Looking up fields changes neither policy nor markers. -/
theorem lookupAll_same (cache : Cache) (clock : Clock) (table : AnnotationTable)
    (fields : List FieldId) :
    (cache.lookupAll clock table fields).cache.policy = cache.policy ∧
      (cache.lookupAll clock table fields).cache.markers = cache.markers := by
  induction fields generalizing cache with
  | nil => exact ⟨rfl, rfl⟩
  | cons field rest ih =>
      obtain ⟨hpolicy, hmarkers⟩ := lookup_same cache clock table field
      obtain ⟨hrest, hrestMarkers⟩ := ih (cache.lookup clock table field).cache
      exact ⟨hrest.trans hpolicy, hrestMarkers.trans hmarkers⟩

/-- No call changes the policy. -/
theorem after_policy (cache : Cache) (clock : Clock) (use : CacheUse) :
    (cache.after clock use).policy = cache.policy := by
  cases use with
  | lookup table field => exact (lookup_same cache clock table field).1
  | prime table shape =>
      rw [Cache.after, primeShape]
      by_cases hprimed : cache.IsPrimed clock table.scope shape.name
      · rw [(prime_of_primed hprimed _).2]
      · rw [(prime_of_unprimed hprimed _).2]
        exact (lookupAll_same _ clock table _).1

/-- No calls change the policy. -/
theorem run_policy (cache : Cache) (clock : Clock) (uses : List CacheUse) :
    (cache.run clock uses).policy = cache.policy := by
  induction uses generalizing cache with
  | nil => rfl
  | cons use rest ih => exact (ih _).trans (after_policy cache clock use)

/-- After any calls the hits and misses are the fields that were looked up, and every miss brought
in an entry that either is still there or was evicted. An unbounded cache evicts nothing, and a
bounded one keeps to its limit, or to one entry. -/
theorem counters_agree {policy : CachePolicy} (hfrees : policy.Frees) (ties : Ties) (clock : Clock)
    (uses : List CacheUse) :
    let cache := (empty policy ties).run clock uses
    cache.hits + cache.misses = (empty policy ties).lookupsOfRun clock uses ∧
      cache.size + cache.evictions = cache.misses ∧
      (policy = .unbounded → cache.evictions = 0) ∧
      ∀ bound, policy = .bounded bound → cache.size ≤ max 1 bound.sizeLimit := by
  intro cache
  have hpolicy : cache.policy = policy := run_policy _ _ _
  obtain ⟨hbalanced, hcounted⟩ := (empty_balanced policy ties).run clock uses
  refine ⟨?_, hbalanced.entries, ?_, ?_⟩
  · rwa [show (empty policy ties).hits + (empty policy ties).misses = 0 from rfl,
      Nat.zero_add] at hcounted
  · rw [← hpolicy]
    exact hbalanced.unbounded
  · rw [← hpolicy] at hfrees ⊢
    exact hbalanced.limited hfrees

end Cache

namespace Sample

/-- `narrow` is a policy with room for two entries, which frees half of it and drops entries that
have not been used for four units of time. -/
def narrow : CachePolicy := .bounded ⟨2, Bound.targetOf 2 ⟨false, 1, -1⟩, 4⟩

/-- `uses` primes a cache with orders, twice, looks up two of their fields, and primes it with the
items of another registry. -/
def uses : List CacheUse :=
  [.prime (registry.table 0) order.shape, .prime (registry.table 0) order.shape,
    .lookup (registry.table 0) ⟨"Order", "Parts"⟩, .lookup (registry.table 0) ⟨"Order", "Total"⟩,
    .prime (registry.table 1) item.shape]

theorem narrow_frees : narrow.Frees := by
  intro bound hbound
  cases hbound
  exact Bound.one_le_targetOf 2 ⟨false, 1, -1⟩

end Sample

/-- The four fields of orders are looked up once, then two of them again, and the two of items. -/
theorem Cache.counters_of_orders :
    let cache := (empty Sample.narrow).run id Sample.uses
    Sample.narrow.Frees ∧ cache.hits + cache.misses = 8 ∧
      cache.size + cache.evictions = cache.misses ∧ cache.size ≤ 2 ∧ cache.hits = 1 ∧
      cache.evictions = 5 := by
  obtain ⟨hcounted, hentries, _, hlimited⟩ :=
    counters_agree Sample.narrow_frees (fun _ _ => 0) id Sample.uses
  exact ⟨Sample.narrow_frees, hcounted, hentries, hlimited _ rfl, rfl, rfl⟩

end Reshape
