import Reshape.Number.Binary64

/-!
# Shortest decimal digits

The fewest decimal digits that identify a binary64 number among its neighbours. Every real number
in the interval between the two midpoints reads back as the number, the ends included exactly when
its mantissa is even. For one digit, two digits, and so on up to seventeen, the two points of the
decimal grid beside the number are tested; the first grid with a point in the interval gives the
digits, and of two such points the nearer one does.
-/

namespace Reshape

/-- `Digits` stands for the value `0.d₁d₂…dₙ * 10 ^ point`, `digits` being `d₁d₂…dₙ`. -/
structure Digits where
  digits : List Char
  point : Int
deriving DecidableEq

namespace Binary64

/-- `decimalLength n` is the number of decimal digits of `n`. -/
def decimalLength (n : Nat) : Nat := (Nat.toDigits 10 n).length

/-- `powerFraction b e` is `b ^ e` as a fraction. -/
def powerFraction (b : Nat) : Int → Nat × Nat
  | .ofNat k => (Nat.pow b k, 1)
  | .negSucc k => (1, Nat.pow b (k + 1))

/-- `decimalPoint n d` is the least `k` with `n / d < 10 ^ k`. -/
def decimalPoint (n d : Nat) : Int :=
  let guess : Int := (decimalLength n : Int) - decimalLength d
  let (powerNumerator, powerDenominator) := powerFraction 10 guess
  if n * powerDenominator < powerNumerator * d then guess else guess + 1

/-- `x.readsBack c unit` says the decimal `c * 10 ^ unit` is rounded to `x`. -/
def readsBack (x : Binary64) (c : Nat) (unit : Int) : Bool :=
  let (gridNumerator, gridDenominator) := powerFraction 10 unit
  let (stepNumerator, stepDenominator) := powerFraction 2 (x.exponent - 2)
  let low :=
    if x.mantissa = twoTo 52 && x.exponent > -1074 then 4 * x.mantissa - 1 else 4 * x.mantissa - 2
  let high := 4 * x.mantissa + 2
  let point := c * gridNumerator * stepDenominator
  let lowPoint := low * stepNumerator * gridDenominator
  let highPoint := high * stepNumerator * gridDenominator
  if x.mantissa % 2 = 0 then lowPoint ≤ point && point ≤ highPoint
  else lowPoint < point && point < highPoint

/-- `x.gridPoint? unit` is the multiple of `10 ^ unit` beside `x` that reads back as `x`, if one
does. -/
def gridPoint? (x : Binary64) (unit : Int) : Option Nat :=
  let (n, d) := x.magnitude
  let (gridNumerator, gridDenominator) := powerFraction 10 unit
  let numerator := n * gridDenominator
  let denominator := d * gridNumerator
  let below := numerator / denominator
  match x.readsBack below unit, x.readsBack (below + 1) unit with
  | true, true => some (roundHalfEven numerator denominator)
  | true, false => some below
  | false, true => some (below + 1)
  | false, false => none

/-- `trimZeros cs` is `cs` without the zeros at its end. -/
def trimZeros (cs : List Char) : List Char :=
  (cs.reverse.dropWhile (· == '0')).reverse

/-- `x.shortestFrom point n` tries grids of `18 - n` digits, then more. -/
def shortestFrom (x : Binary64) (point : Int) : Nat → Digits
  | 0 => ⟨['0'], 0⟩
  | n + 1 =>
    let unit := point - (17 - n : Nat)
    match x.gridPoint? unit with
    | some c =>
      let digits := Nat.toDigits 10 c
      ⟨trimZeros digits, unit + digits.length⟩
    | none => x.shortestFrom point n

/-- `x.shortest` are the shortest digits of a positive or negative `x`, without the sign. -/
def shortest (x : Binary64) : Digits :=
  let (n, d) := x.magnitude
  x.shortestFrom (decimalPoint n d) 17

end Binary64

end Reshape
