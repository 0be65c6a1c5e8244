/-!
# Powers

Powers of two, which bound words and mantissas, and powers of ten, which place decimal points.
-/

namespace Reshape

/-- `twoTo n` is two to the power of `n`. -/
def twoTo (n : Nat) : Nat := Nat.pow 2 n

/-- `tenTo n` is ten to the power of `n`. -/
def tenTo (n : Nat) : Nat := Nat.pow 10 n

end Reshape
