import Mathlib.Data.List.Induction
import Reshape.Proofs.Annotation.Accounting

/-!
# Markers of primed shapes

Every marker of a cache was left by a call that primed the shape and said so (`PrimedAt`). A bounded
cache has no more markers than its limit, or one if the limit is zero, and honours each for its
lifetime; an unbounded one keeps them all. `priming_honours_markers` says what this means for the
answers of `Cache.prime`.
-/

namespace Reshape.Cache

variable {policy : CachePolicy} {ties : Ties} {cache : Cache} {clock : Clock}
  {table : AnnotationTable}

/-- Calls may be made in two parts. -/
theorem run_append (cache : Cache) (clock : Clock) (first second : List CacheUse) :
    cache.run clock (first ++ second) = (cache.run clock first).run clock second := by
  induction first generalizing cache with
  | nil => rfl
  | cons use rest ih => exact ih _

/-! ## Room for a marker -/

/-- `liveMarkers now markers` are the markers that a bounded cache still honours. -/
def liveMarkers (now : Nat) (markers : List Marker) : List Marker :=
  markers.filter fun marker => now - marker.time < markerLifetime

/-- `excess sizeLimit count` is by how many `count` markers and one more exceed a limit. A cache has
room for one marker in any case. -/
def excess (sizeLimit count : Nat) : Int := count + 1 - max sizeLimit 1

/-- Trimming drops the excess of the markers that are still honoured, if these reach the limit; it
is never negative then. -/
theorem trimmed_eq (sizeLimit : Nat) (choice : Nat → Nat) (now : Nat) (markers : List Marker) :
    trimmed sizeLimit choice now markers =
      if (liveMarkers now markers).length < sizeLimit then liveMarkers now markers
      else dropEarliest Marker.time choice
        (excess sizeLimit (liveMarkers now markers).length).toNat (liveMarkers now markers) := by
  have hexcess : (excess sizeLimit (liveMarkers now markers).length).toNat =
      (liveMarkers now markers).length + 1 - max sizeLimit 1 := by
    rw [excess]
    omega
  rw [hexcess]
  rfl

/-- A number of markers that reaches the limit is in excess with one more. -/
theorem excess_nonneg {sizeLimit count : Nat} (h : ¬ count < sizeLimit) :
    0 ≤ excess sizeLimit count := by
  rw [excess]
  omega

/-- Trimmed markers leave room for one more. -/
theorem length_trimmed_lt (sizeLimit : Nat) (choice : Nat → Nat) (now : Nat)
    (markers : List Marker) : (trimmed sizeLimit choice now markers).length < max 1 sizeLimit := by
  rw [trimmed_eq]
  split
  · omega
  · rw [length_dropEarliest, excess]
    omega

/-- Trimming keeps some of the markers. -/
theorem trimmed_sublist (sizeLimit : Nat) (choice : Nat → Nat) (now : Nat)
    (markers : List Marker) : (trimmed sizeLimit choice now markers).Sublist markers := by
  rw [trimmed_eq]
  split
  · exact List.filter_sublist
  · exact (dropEarliest_sublist _ _ _ _).trans List.filter_sublist

/-- Making room keeps some of the markers. -/
theorem roomFor_sublist (cache : Cache) (scope : Nat) (shape : String) (choice : Nat → Nat)
    (now : Nat) : (cache.roomFor scope shape choice now).Sublist cache.markers := by
  rw [roomFor]
  split
  · exact .refl _
  · split
    · exact trimmed_sublist _ _ _ _
    · exact .refl _

/-- Markers are found in the cache, for the shape that they are of. -/
theorem mem_of_marker? {scope : Nat} {shape : String} {marker : Marker}
    (h : cache.marker? scope shape = some marker) :
    marker ∈ cache.markers ∧ marker.scope = scope ∧ marker.shape = shape := by
  refine ⟨List.mem_of_find?_eq_some h, ?_⟩
  simpa using List.find?_some h

/-- A shape with a marker has its marker found. -/
theorem isSome_marker? {marker : Marker} (h : marker ∈ cache.markers) :
    (cache.marker? marker.scope marker.shape).isSome :=
  List.find?_isSome.2 ⟨marker, h, by simp⟩

/-- A new marker is the only one of its shape. -/
theorem mem_mark {scope now : Nat} {shape : String} {markers : List Marker} {marker : Marker} :
    marker ∈ mark scope shape now markers ↔
      (marker ∈ markers ∧ ¬ (marker.scope = scope ∧ marker.shape = shape)) ∨
        marker = ⟨scope, shape, now⟩ := by
  simp [mark, imp_iff_not_or]

/-- After a shape has been marked, its marker is found. -/
theorem marker?_marked (cache : Cache) (clock : Clock) (scope : Nat) (shape : String) :
    (cache.marked clock scope shape).marker? scope shape =
      some ⟨scope, shape, clock cache.readings⟩ := by
  have hmem : (⟨scope, shape, clock cache.readings⟩ : Marker) ∈
      (cache.marked clock scope shape).markers := mem_mark.2 (Or.inr rfl)
  obtain ⟨marker, hmarker⟩ := Option.isSome_iff_exists.1 (isSome_marker? hmem)
  obtain ⟨hmem, hscope, hshape⟩ := mem_of_marker? hmarker
  rcases mem_mark.1 hmem with ⟨_, hother⟩ | rfl
  · exact absurd ⟨hscope, hshape⟩ hother
  · exact hmarker

/-- Marking a shape keeps a bounded cache to its limit. -/
theorem length_marked_le {bound : Bound} (hbounded : cache.policy = .bounded bound)
    (h : cache.markers.length ≤ max 1 bound.sizeLimit) (scope : Nat) (shape : String) :
    (cache.marked clock scope shape).markers.length ≤ max 1 bound.sizeLimit := by
  have hroom : cache.roomFor scope shape (cache.ties cache.readings) (clock cache.readings) =
      if (cache.marker? scope shape).isNone && bound.sizeLimit ≤ cache.markers.length then
        trimmed bound.sizeLimit (cache.ties cache.readings) (clock cache.readings) cache.markers
      else cache.markers := by rw [roomFor, hbounded]
  have hmarked : (cache.marked clock scope shape).markers.length =
      ((cache.roomFor scope shape (cache.ties cache.readings) (clock cache.readings)).filter
        fun marker => !(marker.scope == scope && marker.shape == shape)).length + 1 := by
    rw [marked, mark, List.length_append, List.length_singleton]
  rw [hmarked, hroom]
  cases hmarker : cache.marker? scope shape with
  | none =>
      split
      · have htrimmed := length_trimmed_lt bound.sizeLimit (cache.ties cache.readings)
          (clock cache.readings) cache.markers
        have hle := List.length_filter_le (fun marker : Marker =>
          !(marker.scope == scope && marker.shape == shape))
          (trimmed bound.sizeLimit (cache.ties cache.readings) (clock cache.readings)
            cache.markers)
        omega
      · rename_i hspace
        have hle := List.length_filter_le (fun marker : Marker =>
          !(marker.scope == scope && marker.shape == shape)) cache.markers
        simp at hspace
        omega
  | some marker =>
      -- an expired marker of the shape gives way to the new one
      obtain ⟨hmem, hscope, hshape⟩ := mem_of_marker? hmarker
      have hlt : (cache.markers.filter fun marker =>
          !(marker.scope == scope && marker.shape == shape)).length < cache.markers.length :=
        List.length_filter_lt_length_iff_exists.2 ⟨marker, hmem, by simp [hscope, hshape]⟩
      rw [if_neg (by simp)]
      omega

/-! ## Markers that are honoured -/

/-- A bounded cache honours a marker for its lifetime, and an unbounded one forever. -/
theorem isHonoured_iff {now : Nat} {marker : Marker} :
    isHonoured policy now marker ↔
      ∀ bound, policy = .bounded bound → now - marker.time < markerLifetime := by
  cases policy with
  | unbounded => simp [isHonoured]
  | bounded bound => simp [isHonoured]

/-- A shape is primed as long as its marker is honoured. -/
theorem isPrimed_iff {scope : Nat} {shape : String} :
    cache.IsPrimed clock scope shape ↔ ∃ marker, cache.marker? scope shape = some marker ∧
      ∀ bound, cache.policy = .bounded bound →
        clock cache.readings - marker.time < markerLifetime := by
  rw [IsPrimed, Option.any_eq_true]
  simp only [isHonoured_iff]

/-- Priming says whether it was still to be done. -/
theorem primeShape_result {shape : Shape} :
    (cache.primeShape clock table shape).result = false ↔
      cache.IsPrimed clock table.scope shape.name := by
  by_cases hprimed : cache.IsPrimed clock table.scope shape.name
  · rw [primeShape, (prime_of_primed hprimed _).1]
    exact iff_of_true rfl hprimed
  · rw [primeShape, (prime_of_unprimed hprimed _).1]
    exact iff_of_false Bool.true_eq_false.mp hprimed

/-! ## Runs -/

/-- `PrimedAt policy ties clock uses scope shape time` says that one of the calls primed a shape,
and said so, when the clock was read for `time`, and that no later one did. -/
def PrimedAt (policy : CachePolicy) (ties : Ties) (clock : Clock) (uses : List CacheUse)
    (scope : Nat) (shape : String) (time : Nat) : Prop :=
  ∃ earlier table found later, uses = earlier ++ .prime table found :: later ∧
    table.scope = scope ∧ found.name = shape ∧
    (((empty policy ties).run clock earlier).primeShape clock table found).result = true ∧
    clock ((empty policy ties).run clock earlier).readings = time ∧
    ∀ between other again rest, later = between ++ .prime other again :: rest →
      other.scope = scope → again.name = shape →
        (((empty policy ties).run clock (earlier ++ .prime table found :: between)).primeShape clock
          other again).result = false

/-- `Marks policy ties clock uses cache` says that every marker of a cache comes from the last call
that primed its shape, that a bounded cache has no more than its limit, and that an unbounded one
has one for every shape that it was primed with. -/
structure Marks (policy : CachePolicy) (ties : Ties) (clock : Clock) (uses : List CacheUse)
    (cache : Cache) : Prop where
  origin : ∀ marker ∈ cache.markers,
    PrimedAt policy ties clock uses marker.scope marker.shape marker.time
  limited : ∀ bound, policy = .bounded bound → cache.markers.length ≤ max 1 bound.sizeLimit
  kept : policy = .unbounded → ∀ table shape, .prime table shape ∈ uses →
    (cache.marker? table.scope shape.name).isSome

/-- A call that does not prime a shape does not change when that was done last. -/
theorem PrimedAt.append {uses : List CacheUse} {scope time : Nat} {shape : String}
    (h : PrimedAt policy ties clock uses scope shape time) {use : CacheUse}
    (hnot : ∀ other again, use = .prime other again → other.scope = scope → again.name = shape →
      (((empty policy ties).run clock uses).primeShape clock other again).result = false) :
    PrimedAt policy ties clock (uses ++ [use]) scope shape time := by
  obtain ⟨earlier, table, found, later, rfl, hscope, hname, hresult, htime, hlast⟩ := h
  refine ⟨earlier, table, found, later ++ [use], by simp, hscope, hname, hresult, htime, ?_⟩
  intro between other again rest hlater hother hagain
  rcases List.eq_nil_or_concat rest with rfl | ⟨rest, last, rfl⟩
  · -- the call is the new one
    obtain ⟨rfl, huse⟩ := List.append_inj' hlater rfl
    exact hnot other again (List.singleton_inj.1 huse) hother hagain
  · rw [List.concat_eq_append, ← List.cons_append, ← List.append_assoc] at hlater
    exact hlast between other again rest (List.append_inj' hlater rfl).1 hother hagain

theorem marker?_of_markers {after : Cache} (h : after.markers = cache.markers) (scope : Nat)
    (shape : String) : after.marker? scope shape = cache.marker? scope shape := by
  rw [marker?, marker?, h]

/-- A call that does not touch the markers keeps what they say, if it primes with nothing new. -/
theorem Marks.same {uses : List CacheUse}
    (h : Marks policy ties clock uses ((empty policy ties).run clock uses)) {after : Cache}
    (hmarkers : after.markers = ((empty policy ties).run clock uses).markers) {use : CacheUse}
    (hnew : ∀ table shape, use = .prime table shape →
      ((empty policy ties).run clock uses).IsPrimed clock table.scope shape.name) :
    Marks policy ties clock (uses ++ [use]) after where
  origin marker hmarker := by
    rw [hmarkers] at hmarker
    exact (h.origin marker hmarker).append fun table shape huse _ _ =>
      primeShape_result.2 (hnew table shape huse)
  limited bound hbound := by
    rw [hmarkers]
    exact h.limited bound hbound
  kept hunbounded table shape huse := by
    rw [marker?_of_markers hmarkers]
    rcases List.mem_append.1 huse with huse | huse
    · exact h.kept hunbounded table shape huse
    · exact Option.isSome_of_any (hnew table shape (List.mem_singleton.1 huse).symm)

/-- A new marker comes from the call that left it, and takes no other's place in an unbounded
cache. -/
theorem Marks.marked {uses : List CacheUse} {shape : Shape}
    (h : Marks policy ties clock uses ((empty policy ties).run clock uses))
    (hunprimed : ¬ ((empty policy ties).run clock uses).IsPrimed clock table.scope shape.name)
    {after : Cache} (hmarkers : after.markers =
      (((empty policy ties).run clock uses).marked clock table.scope shape.name).markers) :
    Marks policy ties clock (uses ++ [.prime table shape]) after where
  origin marker hmarker := by
    rw [hmarkers] at hmarker
    rcases mem_mark.1 hmarker with ⟨hold, hother⟩ | rfl
    · refine (h.origin marker ((roomFor_sublist _ _ _ _ _).subset hold)).append ?_
      rintro _ _ ⟨⟩ hscope hname
      exact absurd ⟨hscope.symm, hname.symm⟩ hother
    · refine ⟨uses, table, shape, [], rfl, rfl, rfl, (prime_of_unprimed hunprimed _).1, rfl, ?_⟩
      intro between other again rest hlater
      simp at hlater
  limited bound hbound := by
    rw [hmarkers]
    exact length_marked_le ((run_policy _ clock uses).trans hbound) (h.limited bound hbound) _ _
  kept hunbounded other found huse := by
    rw [marker?_of_markers hmarkers]
    by_cases hsame : other.scope = table.scope ∧ found.name = shape.name
    · rw [hsame.1, hsame.2, marker?_marked]
      rfl
    · -- the marker of another shape stays, as an unbounded cache needs no room
      have hold : CacheUse.prime other found ∈ uses := by
        rcases List.mem_append.1 huse with huse | huse
        · exact huse
        · cases List.mem_singleton.1 huse
          exact absurd ⟨rfl, rfl⟩ hsame
      obtain ⟨marker, hmarker⟩ := Option.isSome_iff_exists.1 (h.kept hunbounded other found hold)
      obtain ⟨hmem, hscope, hshape⟩ := mem_of_marker? hmarker
      have hroom (choice : Nat → Nat) (now : Nat) :
          ((empty policy ties).run clock uses).roomFor table.scope shape.name choice now =
            ((empty policy ties).run clock uses).markers := by
        rw [roomFor, (run_policy _ clock uses).trans hunbounded]
      have hmarked : marker ∈
          (((empty policy ties).run clock uses).marked clock table.scope shape.name).markers := by
        refine mem_mark.2 (Or.inl ⟨?_, by rwa [hscope, hshape]⟩)
        rwa [hroom]
      have hsome := isSome_marker? hmarked
      rwa [hscope, hshape] at hsome

theorem markers_of_primed {shape : Shape} (h : cache.IsPrimed clock table.scope shape.name) :
    (cache.primeShape clock table shape).cache.markers = cache.markers := by
  rw [primeShape, (prime_of_primed h _).2]

/-- Priming with a shape that no marker is honoured for leaves its marker. -/
theorem markers_of_unprimed {shape : Shape}
    (h : ¬ cache.IsPrimed clock table.scope shape.name) :
    (cache.primeShape clock table shape).cache.markers =
      (cache.marked clock table.scope shape.name).markers := by
  rw [primeShape, (prime_of_unprimed h _).2]
  exact (lookupAll_same _ clock table _).2

/-- After any calls the markers tell which shapes the cache was primed with. -/
theorem run_marks (policy : CachePolicy) (ties : Ties) (clock : Clock) (uses : List CacheUse) :
    Marks policy ties clock uses ((empty policy ties).run clock uses) := by
  induction uses using List.reverseRecOn with
  | nil =>
      refine ⟨?_, fun _ _ => Nat.zero_le _, ?_⟩
      · intro marker hmarker
        cases hmarker
      · intro _ table shape huse
        cases huse
  | append_singleton uses use ih =>
      rw [run_append]
      cases use with
      | lookup table field =>
          exact ih.same (lookup_same _ clock table field).2 fun _ _ huse => nomatch huse
      | prime table shape =>
          by_cases hprimed :
              ((empty policy ties).run clock uses).IsPrimed clock table.scope shape.name
          · refine ih.same (markers_of_primed hprimed) ?_
            rintro _ _ ⟨⟩
            exact hprimed
          · exact ih.marked hprimed (markers_of_unprimed hprimed)

/-! ## Answers -/

/-- A shape that was primed at some time is among those that the cache was primed with. -/
theorem PrimedAt.exists_use {uses : List CacheUse} {scope time : Nat} {shape : String}
    (h : PrimedAt policy ties clock uses scope shape time) :
    ∃ table found, .prime table found ∈ uses ∧ table.scope = scope ∧ found.name = shape := by
  obtain ⟨earlier, table, found, later, rfl, hscope, hname, _⟩ := h
  exact ⟨table, found, by simp, hscope, hname⟩

/-- A marker that is found comes from the last call that primed its shape. -/
theorem Marks.primedAt {uses : List CacheUse} (h : Marks policy ties clock uses cache) {scope : Nat}
    {shape : String} {marker : Marker} (hmarker : cache.marker? scope shape = some marker) :
    PrimedAt policy ties clock uses scope shape marker.time := by
  obtain ⟨hmem, rfl, rfl⟩ := mem_of_marker? hmarker
  exact h.origin marker hmem

/-- In an unbounded cache the shapes that are primed are those that it was primed with. -/
theorem Marks.isPrimed_iff_of_unbounded {uses : List CacheUse}
    (h : Marks .unbounded ties clock uses cache) (hpolicy : cache.policy = .unbounded)
    {scope : Nat} {shape : String} :
    cache.IsPrimed clock scope shape ↔
      ∃ table found, .prime table found ∈ uses ∧ table.scope = scope ∧ found.name = shape := by
  rw [isPrimed_iff]
  constructor
  · rintro ⟨marker, hmarker, _⟩
    exact (h.primedAt hmarker).exists_use
  · -- the call has left a marker, which such a cache honours forever
    rintro ⟨table, found, huse, rfl, rfl⟩
    obtain ⟨marker, hmarker⟩ := Option.isSome_iff_exists.1 (h.kept rfl table found huse)
    refine ⟨marker, hmarker, fun bound hbound => ?_⟩
    rw [hpolicy] at hbound
    cases hbound

/-- After a call that primes with a shape, a marker of it is there: that of this call if the shape
was still to be primed, and else the one that was there before. -/
theorem marker?_primeShape (cache : Cache) (clock : Clock) (table : AnnotationTable)
    (shape : Shape) :
    ∃ marker, (cache.primeShape clock table shape).cache.marker? table.scope shape.name =
        some marker ∧
      ((cache.primeShape clock table shape).result = true →
        marker.time = clock cache.readings) := by
  by_cases hprimed : cache.IsPrimed clock table.scope shape.name
  · obtain ⟨marker, hmarker, _⟩ := isPrimed_iff.1 hprimed
    refine ⟨marker, ?_, fun hresult => ?_⟩
    · rw [primeShape, (prime_of_primed hprimed _).2]
      exact hmarker
    · rw [primeShape_result.2 hprimed] at hresult
      cases hresult
  · exact ⟨_, (marker?_of_markers (markers_of_unprimed hprimed) _ _).trans
      (marker?_marked cache clock _ _), fun _ => rfl⟩

/-- After any calls a bounded cache has no more markers than its limit allows, and what it drops to
make room is never a negative number. An unbounded cache is primed with a shape by the first call
that asks for it. A call that says that there is nothing to do follows one that primed the shape,
within the lifetime of the marker if the cache is bounded, and changes nothing but the readings of
the clock. And a call for a shape right after another one says so, within the lifetime of the marker
that the last one to prime the shape has left. -/
theorem priming_honours_markers (policy : CachePolicy) (ties : Ties) (clock : Clock)
    (uses : List CacheUse) (table : AnnotationTable) (shape : Shape) :
    let cache := (empty policy ties).run clock uses
    let now := clock cache.readings
    let primed := cache.primeShape clock table shape
    (∀ bound, policy = .bounded bound → cache.markers.length ≤ max 1 bound.sizeLimit ∧
      let live := liveMarkers now cache.markers
      ¬ live.length < bound.sizeLimit → 0 ≤ excess bound.sizeLimit live.length ∧
        ∀ choice, trimmed bound.sizeLimit choice now cache.markers =
          dropEarliest Marker.time choice (excess bound.sizeLimit live.length).toNat live) ∧
    (policy = .unbounded → (primed.result = true ↔ ∀ other found, .prime other found ∈ uses →
      ¬ (other.scope = table.scope ∧ found.name = shape.name))) ∧
    (primed.result = false → primed.cache = { cache with readings := cache.readings + 1 } ∧
      ∃ time, PrimedAt policy ties clock uses table.scope shape.name time ∧
        ∀ bound, policy = .bounded bound → now - time < markerLifetime) ∧
    ∃ time, PrimedAt policy ties clock (uses ++ [.prime table shape]) table.scope shape.name time ∧
      (primed.result = true → time = now) ∧
      ∀ (other : AnnotationTable) (found : Shape), other.scope = table.scope →
        found.name = shape.name →
        (∀ bound, policy = .bounded bound → clock primed.cache.readings - time < markerLifetime) →
          (primed.cache.primeShape clock other found).result = false := by
  intro cache now primed
  have hmarks : Marks policy ties clock uses cache := run_marks policy ties clock uses
  have hpolicy : cache.policy = policy := run_policy _ clock uses
  refine ⟨fun bound hbound => ⟨hmarks.limited bound hbound, fun hfull => ?_⟩,
    fun hunbounded => ?_, fun hresult => ?_, ?_⟩
  · refine ⟨excess_nonneg hfull, fun choice => ?_⟩
    rw [trimmed_eq, if_neg hfull]
  · subst hunbounded
    rw [← Bool.not_eq_false, primeShape_result, hmarks.isPrimed_iff_of_unbounded hpolicy]
    simp only [not_exists, not_and]
  · have hprimed := primeShape_result.1 hresult
    obtain ⟨marker, hmarker, hlive⟩ := isPrimed_iff.1 hprimed
    rw [hpolicy] at hlive
    exact ⟨(prime_of_primed hprimed _).2, marker.time, hmarks.primedAt hmarker, hlive⟩
  · obtain ⟨marker, hmarker, htime⟩ := marker?_primeShape cache clock table shape
    have hafter := run_marks policy ties clock (uses ++ [.prime table shape])
    rw [run_append] at hafter
    refine ⟨marker.time, hafter.primedAt hmarker, htime, ?_⟩
    intro other found hscope hname hlive
    rw [primeShape_result, hscope, hname]
    refine isPrimed_iff.2 ⟨marker, hmarker, ?_⟩
    rwa [show primed.cache.policy = policy from
      (after_policy cache clock (.prime table shape)).trans hpolicy]

/-- A cache with room for nothing keeps the last entry and the last marker. -/
example :
    let once := (empty (.bounded ⟨0, 1, 0⟩)).primeShape id (Sample.registry.table 0)
      Sample.order.shape
    once.result = true ∧ once.cache.size = 1 ∧
      (once.cache.primeShape id (Sample.registry.table 0) Sample.order.shape).result = false :=
  ⟨rfl, rfl, rfl⟩

end Reshape.Cache
