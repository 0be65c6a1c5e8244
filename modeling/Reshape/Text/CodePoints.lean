/-!
# Sets of code points

A property of characters is given by the sorted code points at which membership changes, starting
outside the set. `CodePoints.contains` counts the changes up to a character.
-/

namespace Reshape.Text

/-- A `CodePoints` lists, in increasing order, the code points where membership changes. -/
structure CodePoints where
  boundaries : List Nat

/-- `CodePoints.insideAt n inside bs` follows the changes `bs` up to code point `n`. -/
def CodePoints.insideAt (n : Nat) : Bool → List Nat → Bool
  | inside, [] => inside
  | inside, boundary :: rest => if boundary ≤ n then insideAt n (!inside) rest else inside

/-- `set.contains c` says `c` belongs to the set. -/
def CodePoints.contains (set : CodePoints) (c : Char) : Bool :=
  insideAt c.toNat false set.boundaries

end Reshape.Text
