import Reshape.Annotation.Policy
import Reshape.Log
import Reshape.Shape.Registry
import Reshape.Text.Quoted

/-!
# The annotation cache

A cache remembers what annotation tables answered, the absence of an annotation included. A lookup
that finds an entry is a hit; any other is a miss, asks the table and stores the answer.
`Cache.prime` does this for every field of a shape and leaves a marker, so that it is not done
again soon.

Time is read from a `Clock`, which gives the time of every reading in turn; the cache counts the
readings. When several entries or markers have the earliest time and not all of them go, `Ties`
chooses.
-/

namespace Reshape

/-- A `Clock` gives the time of each reading, in nanoseconds. -/
abbrev Clock := Nat → Nat

/-- `Ties` chooses among items of one time: at some reading, when so many more are to go after it,
the place of the next to go among them. Any choice is possible. -/
abbrev Ties := Nat → Nat → Nat

/-- A `CacheKey` is a field of the table of some scope. -/
structure CacheKey where
  scope : Nat
  field : FieldId
deriving DecidableEq

/-- A `CacheEntry` is an answer that is remembered, with the time it was last used. -/
structure CacheEntry where
  key : CacheKey
  answer : Option String
  lastAccess : Nat
deriving DecidableEq

/-- A `Marker` says that a shape was primed, and when. -/
structure Marker where
  scope : Nat
  shape : String
  time : Nat
deriving DecidableEq

/-- A `CacheEvent` is something a cache did that is worth a log entry. -/
inductive CacheEvent where
  | asked (field : FieldId) (answer : Option String)
  | compacted (removed : Nat)
  | primed (shape : String)
deriving DecidableEq

namespace CacheEvent

/-- `optionText text?` shows a text that may be absent. -/
def optionText : Option String → String
  | some text => "Some(" ++ Text.quoted text ++ ")"
  | none => "None"

/-- `event.log` is the log entry of an event. -/
def log : CacheEvent → LogEntry
  | .asked field answer =>
    ⟨.trace, "annotation lookup for " ++ field.render ++ ": " ++ optionText answer⟩
  | .compacted removed =>
    ⟨.debug, "annotation cache compacted, " ++ naturalText removed ++ " entries evicted"⟩
  | .primed shape => ⟨.debug, "primed annotation cache for shape " ++ shape⟩

end CacheEvent

/-- A `Cache` holds entries and markers, counts hits, misses and evictions, and the readings of the
clock. -/
structure Cache where
  policy : CachePolicy
  ties : Ties
  entries : List CacheEntry
  markers : List Marker
  hits : Nat
  misses : Nat
  evictions : Nat
  readings : Nat

/-- An `Outcome` is what an operation on a cache gives: a result, the cache after it, and what
happened. -/
structure Outcome (α : Type) where
  result : α
  cache : Cache
  events : List CacheEvent

/-- `eraseNthP p n items` takes one item with `p` out of a list: the one that stands at place `n`
among them, or the last if there are fewer. -/
def eraseNthP {α : Type} (p : α → Bool) : Nat → List α → List α
  | _, [] => []
  | n, item :: rest =>
    if p item ∧ (n = 0 ∨ ¬ rest.any p) then rest
    else item :: eraseNthP p (if p item then n - 1 else n) rest

/-- `dropEarliest time choice n items` takes the `n` items with the earliest times out of a list.
When `m` more are to go after it, the next one is the one at place `choice m` among those of the
earliest time. -/
def dropEarliest {α : Type} (time : α → Nat) (choice : Nat → Nat) : Nat → List α → List α
  | 0, items => items
  | n + 1, items =>
    match (items.map time).min? with
    | some earliest =>
      dropEarliest time choice n (eraseNthP (fun item => time item == earliest) (choice n) items)
    | none => []

namespace Cache

/-- `empty policy ties` has seen nothing. -/
def empty (policy : CachePolicy) (ties : Ties := fun _ _ => 0) : Cache :=
  ⟨policy, ties, [], [], 0, 0, 0, 0⟩

/-- `cache.size` is the number of entries. -/
def size (cache : Cache) : Nat := cache.entries.length

/-- `cache.cached? key` is the entry of a key. -/
def cached? (cache : Cache) (key : CacheKey) : Option CacheEntry :=
  cache.entries.find? fun entry => entry.key == key

/-- `isLive bound now entry` says the entry was used recently enough. -/
def isLive (bound : Bound) (now : Nat) (entry : CacheEntry) : Bool :=
  now - entry.lastAccess < bound.expiration

/-- `touch key now entries` notes that an entry was used. -/
def touch (key : CacheKey) (now : Nat) (entries : List CacheEntry) : List CacheEntry :=
  entries.map fun entry => if entry.key = key then { entry with lastAccess := now } else entry

/-- `cache.get clock key` is the answer remembered for `key`. Using an entry keeps it alive; an
entry that is no longer alive is evicted. -/
def get (cache : Cache) (clock : Clock) (key : CacheKey) : Option (Option String) × Cache :=
  match cache.policy with
  | .unbounded => ((cache.cached? key).map (·.answer), cache)
  | .bounded bound =>
    let now := clock cache.readings
    let cache := { cache with readings := cache.readings + 1 }
    match cache.cached? key with
    | none => (none, cache)
    | some entry =>
      if isLive bound now entry then
        (some entry.answer, { cache with entries := touch key now cache.entries })
      else
        let entries := cache.entries.filter fun entry => entry.key != key
        (none, { cache with entries, evictions := cache.evictions + 1 })

/-- `compacted bound choice now entries` drops the entries that are no longer alive, and then the
least recently used ones until the target is reached. -/
def compacted (bound : Bound) (choice : Nat → Nat) (now : Nat) (entries : List CacheEntry) :
    List CacheEntry :=
  let live := entries.filter (isLive bound now)
  dropEarliest CacheEntry.lastAccess choice (bound.target - (entries.length - live.length)) live

/-- `cache.insert clock key answer` stores an answer that is not yet remembered, making room for it
in a full cache. -/
def insert (cache : Cache) (clock : Clock) (key : CacheKey) (answer : Option String) :
    Outcome Unit :=
  match cache.policy with
  | .unbounded => ⟨(), { cache with entries := cache.entries ++ [⟨key, answer, 0⟩] }, []⟩
  | .bounded bound =>
    let now := clock cache.readings
    let choice := cache.ties cache.readings
    let cache := { cache with readings := cache.readings + 1 }
    let entry : CacheEntry := ⟨key, answer, now⟩
    if bound.sizeLimit ≤ cache.size then
      let kept := compacted bound choice now cache.entries
      let removed := cache.size - kept.length
      ⟨(), { cache with entries := kept ++ [entry], evictions := cache.evictions + removed },
        [.compacted removed]⟩
    else ⟨(), { cache with entries := cache.entries ++ [entry] }, []⟩

/-- `cache.lookup clock table field` is the annotation of a field, from the cache or from the
table. -/
def lookup (cache : Cache) (clock : Clock) (table : AnnotationTable) (field : FieldId) :
    Outcome (Option String) :=
  let key : CacheKey := ⟨table.scope, field⟩
  match cache.get clock key with
  | (some answer, cache) => ⟨answer, { cache with hits := cache.hits + 1 }, []⟩
  | (none, cache) =>
    let answer := table.mapsTo? field
    let stored := { cache with misses := cache.misses + 1 }.insert clock key answer
    ⟨answer, stored.cache, .asked field answer :: stored.events⟩

/-- `cache.lookupAll clock table fields` looks up fields in order. -/
def lookupAll (cache : Cache) (clock : Clock) (table : AnnotationTable) :
    List FieldId → Outcome Unit
  | [] => ⟨(), cache, []⟩
  | field :: rest =>
    let first := cache.lookup clock table field
    let others := first.cache.lookupAll clock table rest
    ⟨(), others.cache, first.events ++ others.events⟩

/-- `markerLifetime` is how long a bounded cache honours a marker. -/
def markerLifetime : Nat := Bound.minutes 60

/-- `cache.marker? scope shape` is the marker of a shape. -/
def marker? (cache : Cache) (scope : Nat) (shape : String) : Option Marker :=
  cache.markers.find? fun marker => marker.scope == scope && marker.shape == shape

/-- `isHonoured policy now marker` says a marker still counts; an unbounded cache honours it
forever. -/
def isHonoured (policy : CachePolicy) (now : Nat) (marker : Marker) : Bool :=
  match policy with
  | .unbounded => true
  | .bounded _ => now - marker.time < markerLifetime

/-- `trimmed sizeLimit choice now markers` drops the markers that no longer count, and then the
oldest ones until there is room for one more. -/
def trimmed (sizeLimit : Nat) (choice : Nat → Nat) (now : Nat) (markers : List Marker) :
    List Marker :=
  let live := markers.filter fun marker => now - marker.time < markerLifetime
  if live.length < sizeLimit then live
  else dropEarliest Marker.time choice (live.length + 1 - max sizeLimit 1) live

/-- `cache.roomFor scope shape choice now` are the markers with room for that of a shape. -/
def roomFor (cache : Cache) (scope : Nat) (shape : String) (choice : Nat → Nat) (now : Nat) :
    List Marker :=
  match cache.policy with
  | .unbounded => cache.markers
  | .bounded bound =>
    if (cache.marker? scope shape).isNone && bound.sizeLimit ≤ cache.markers.length then
      trimmed bound.sizeLimit choice now cache.markers
    else cache.markers

/-- `mark scope shape now markers` notes that a shape was primed. -/
def mark (scope : Nat) (shape : String) (now : Nat) (markers : List Marker) : List Marker :=
  (markers.filter fun marker => !(marker.scope == scope && marker.shape == shape)) ++
    [⟨scope, shape, now⟩]

/-- `cache.prime clock table shape fields` looks up every field of a shape, unless a marker says
that this was done. It tells whether it was done now. -/
def prime (cache : Cache) (clock : Clock) (table : AnnotationTable) (shape : String)
    (fields : List FieldId) : Outcome Bool :=
  let now := clock cache.readings
  let choice := cache.ties cache.readings
  let cache := { cache with readings := cache.readings + 1 }
  if (cache.marker? table.scope shape).any (isHonoured cache.policy now) then ⟨false, cache, []⟩
  else
    let markers := mark table.scope shape now (cache.roomFor table.scope shape choice now)
    let looked := { cache with markers }.lookupAll clock table fields
    ⟨true, looked.cache, looked.events ++ [.primed shape]⟩

end Cache

end Reshape
