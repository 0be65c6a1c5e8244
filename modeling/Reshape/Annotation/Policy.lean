import Reshape.Number.Binary64

/-!
# Policies of an annotation cache

A cache keeps every entry, or it is bounded: it holds a limited number of entries, frees a number of
them when the limit is reached, and drops entries that have not been used for a time. Times are in
nanoseconds.
-/

namespace Reshape

/-- A `Bound` limits a cache: to `sizeLimit` entries, freeing `target` of them when it is full, and
dropping those not used for `expiration`. -/
structure Bound where
  sizeLimit : Nat
  target : Nat
  expiration : Nat
deriving DecidableEq

namespace Bound

/-- `greatestTarget` is the largest number of entries that can be asked for. -/
def greatestTarget : Nat := twoTo 64 - 1

/-- `ceiling x` is the least natural number that is not below `x`. -/
def ceiling (x : Binary64) : Nat :=
  let (n, d) := x.magnitude
  if x.negative then 0 else min ((n + d - 1) / d) greatestTarget

/-- `targetOf sizeLimit share` is the number of entries in a share of the limit, rounded up, and at
least one. -/
def targetOf (sizeLimit : Nat) (share : Binary64) : Nat :=
  match (Binary64.ofNat? sizeLimit).bind fun limit => limit.mul? share with
  | some product => max 1 (ceiling product)
  | none => if share.negative then 1 else greatestTarget

/-- `minutes n` is a time of `n` minutes. -/
def minutes (n : Nat) : Nat := n * 60 * 1000000000

/-- `default` holds a thousand entries, frees two hundred, and drops those idle for half an hour. -/
def default : Bound := ⟨1000, 200, minutes 30⟩

end Bound

/-- A `CachePolicy` says what a cache keeps. -/
inductive CachePolicy where
  | unbounded
  | bounded (bound : Bound)
deriving DecidableEq

end Reshape
