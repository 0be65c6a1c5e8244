/-!
# Rounding a quotient

A quotient of natural numbers is rounded to a neighbouring integer: to the nearer one, and from the
middle either to the even one or away from zero.
-/

namespace Reshape

/-- `roundHalfEven n d` is `n / d` rounded to the nearest integer, and from the middle to the even
one. -/
def roundHalfEven (n d : Nat) : Nat :=
  let rest := 2 * (n % d)
  if d < rest || (rest == d && n / d % 2 == 1) then n / d + 1 else n / d

/-- `roundHalfUp n d` is `n / d` rounded to the nearest integer, and from the middle upwards. -/
def roundHalfUp (n d : Nat) : Nat :=
  if d ≤ 2 * (n % d) then n / d + 1 else n / d

end Reshape
