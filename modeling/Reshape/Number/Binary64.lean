import Reshape.Number.Power
import Reshape.Number.Rounding

/-!
# Binary64 numbers

Finite binary floating-point numbers with 53 significant bits, as sign, mantissa and exponent.
Arithmetic is exact arithmetic on fractions followed by one rounding to the nearest such number, a
tie going to the even mantissa. `Binary64.round` is that rounding; it fails on overflow.
-/

namespace Reshape

/-- A `Binary64` stands for `mantissa * 2 ^ exponent`, negated if `negative` is set. -/
structure Binary64 where
  negative : Bool
  mantissa : Nat
  exponent : Int
deriving DecidableEq

namespace Binary64

/-- `scaledBy e n d` is the fraction `n / d` divided by `2 ^ e`. -/
def scaledBy (e : Int) (n d : Nat) : Nat × Nat :=
  match e with
  | .ofNat k => (n, d * twoTo k)
  | .negSucc k => (n * twoTo (k + 1), d)

/-- `exponentOf n d` is the exponent with which a positive `n / d` is written with 53 bits, or the
least exponent there is. -/
def exponentOf (n d : Nat) : Int :=
  let guess : Int := (n.log2 : Int) - d.log2 - 52
  let (scaledNumerator, scaledDenominator) := scaledBy guess n d
  max (if scaledNumerator < twoTo 52 * scaledDenominator then guess - 1 else guess) (-1074)

/-- `round negative n d` is the binary64 number nearest to `n / d`, negated if `negative` is set, or
`none` when that is too large. -/
def round (negative : Bool) (n d : Nat) : Option Binary64 :=
  if n = 0 then some ⟨negative, 0, -1074⟩
  else
    let e := exponentOf n d
    let (scaledNumerator, scaledDenominator) := scaledBy e n d
    let rounded := roundHalfEven scaledNumerator scaledDenominator
    let (mantissa, exponent) := if rounded = twoTo 53 then (twoTo 52, e + 1) else (rounded, e)
    if exponent ≤ 971 then some ⟨negative, mantissa, exponent⟩ else none

/-- `x.magnitude` is the absolute value of `x` as a fraction. -/
def magnitude (x : Binary64) : Nat × Nat :=
  match x.exponent with
  | .ofNat k => (x.mantissa * twoTo k, 1)
  | .negSucc k => (x.mantissa, twoTo (k + 1))

/-- `zero` is positive zero. -/
def zero : Binary64 := ⟨false, 0, -1074⟩

/-- `x.isZero` says `x` is a zero of either sign. -/
def isZero (x : Binary64) : Bool := x.mantissa == 0

/-- `x.neg` is `x` with the other sign. -/
def neg (x : Binary64) : Binary64 := { x with negative := !x.negative }

/-- `ofNat? n` is the number nearest to `n`. -/
def ofNat? (n : Nat) : Option Binary64 := round false n 1

/-- `powerOfTen? k` is the number nearest to `10 ^ k`. -/
def powerOfTen? (k : Nat) : Option Binary64 := round false (tenTo k) 1

/-- `mul? x y` is the rounded product, or `none` on overflow. -/
def mul? (x y : Binary64) : Option Binary64 :=
  let (xn, xd) := x.magnitude
  let (yn, yd) := y.magnitude
  round (x.negative != y.negative) (xn * yn) (xd * yd)

/-- `div? x y` is the rounded quotient, or `none` on overflow or a zero divisor. -/
def div? (x y : Binary64) : Option Binary64 :=
  let (xn, xd) := x.magnitude
  let (yn, yd) := y.magnitude
  if yn = 0 then none else round (x.negative != y.negative) (xn * yd) (xd * yn)

/-- `addMagnitudes? x y` is the rounded sum of the absolute values. -/
def addMagnitudes? (x y : Binary64) : Option Binary64 :=
  let (xn, xd) := x.magnitude
  let (yn, yd) := y.magnitude
  round false (xn * yd + yn * xd) (xd * yd)

end Binary64

end Reshape
