import Reshape.Decimal.Basic

/-!
# Decimal arithmetic

Sums and products are exact and then rounded half to even until the mantissa fits 96 bits and the
scale 28 places (`Decimal.fit?`). Quotients are found by long division, a few digits
at a time, and lose the zeros at their end. Results that cannot be held are `none`.
-/

namespace Reshape.Decimal

/-- `fit? negative m s` is `m / 10 ^ s` with the fewest digits dropped that make it a decimal. -/
def fit? (negative : Bool) (m s : Nat) : Option Decimal := do
  let dropped ← (List.range' (s - 28) (s + 1 - (s - 28))).find? fun k =>
    roundHalfEven m (tenTo k) < mantissaBound
  let mantissa := roundHalfEven m (tenTo dropped)
  make? (negative && mantissa != 0) mantissa (s - dropped)

/-- `ofSigned? n s` is `n / 10 ^ s`. -/
def ofSigned? (n : Int) (s : Nat) : Option Decimal :=
  fit? (n < 0) n.natAbs s

/-- `d.signedAt s` is the signed mantissa of `d` at a scale of at least its own. -/
def signedAt (d : Decimal) (s : Nat) : Int :=
  d.signed * tenTo (s - d.scale)

/-- `add? a b` is `a + b`; a zero operand leaves the other as it is. -/
def add? (a b : Decimal) : Option Decimal :=
  if a.isZero then some b
  else if b.isZero then some a
  else
    let s := max a.scale b.scale
    ofSigned? (a.signedAt s + b.signedAt s) s

/-- `sub? a b` is `a - b`; a zero operand leaves the other as it is, but for its sign. -/
def sub? (a b : Decimal) : Option Decimal :=
  if b.isZero then (if a.isZero then some b else some a) else add? a b.neg

/-- `a.isShort` says the mantissa of `a` fits 32 bits. -/
def isShort (a : Decimal) : Bool := a.mantissa < twoTo 32

/-- `mul? a b` is `a * b`. A product of short mantissas below the last place is zero; other products
that round to zero keep their sign. -/
def mul? (a b : Decimal) : Option Decimal :=
  if a.isZero || b.isZero then some zero
  else
    let short := a.isShort && b.isShort
    let s := a.scale + b.scale
    if short && 47 < s then some zero
    else
      let negative := a.negative != b.negative
      (fit? negative (a.mantissa * b.mantissa) s).map fun product =>
        if product.isZero && !short then { product with negative } else product

/-- A `Division` is the state of a long division: quotient digits so far, their scale, which is
negative while places are still owed, the remainder, and whether zeros are to be taken off at the
end. -/
structure Division where
  quotient : Nat
  scale : Int
  remainder : Nat
  inexact : Bool

namespace Division

/-- `division.tenth? rest` drops the last digit of a quotient that does not fit. A five goes up when
there is a `rest` after it, and else to the even neighbour. -/
def tenth? (division : Division) (rest : Bool) : Option Division :=
  if division.scale < 1 then none
  else
    let q := division.quotient / 10
    let digit := division.quotient % 10
    let up := 5 < digit || (digit == 5 && (rest || q % 2 == 1))
    some { division with quotient := if up then q + 1 else q, scale := division.scale - 1 }

/-- `division.room` is the largest number of digits, at most nine, that can be appended. -/
def room (division : Division) : Nat :=
  let limit := min 9 (28 - division.scale).toNat
  ((List.range (limit + 1)).reverse.find? fun p =>
    division.quotient * tenTo p < mantissaBound).getD 0

/-- `division.rounded? divisor` ends the division by rounding the remainder to even. -/
def rounded? (divisor : Nat) (division : Division) : Option Division :=
  let twice := 2 * division.remainder
  let up := divisor < twice || (twice == divisor && division.quotient % 2 == 1)
  let quotient := if up then division.quotient + 1 else division.quotient
  let division := { division with quotient }
  if quotient < mantissaBound then some division else division.tenth? false

/-- `run? divisor fuel division` appends digits until the division is exact or full. Every round
but the last raises the scale, so `fuel` need not exceed the number of scales. -/
def run? (divisor : Nat) : Nat → Division → Option Division
  | 0, division => some division
  | fuel + 1, division =>
    let append (places : Nat) (division : Division) : Option Division :=
      let scale : Int := division.scale + places
      let shifted := division.quotient * tenTo places
      if mantissaBound ≤ shifted then none
      else
        let dividend := division.remainder * tenTo places
        let quotient := shifted + dividend / divisor
        let next := { division with quotient, scale, remainder := dividend % divisor }
        if mantissaBound ≤ quotient then next.tenth? (next.remainder != 0)
        else run? divisor fuel next
    if division.remainder = 0 then
      if 0 ≤ division.scale then some division
      else append (min 9 (-division.scale).toNat) division
    else
      let division := { division with inexact := true }
      let places : Nat := if division.scale = 28 then 0 else division.room
      if division.scale + (places : Int) < 0 && places < 9 then none
      else if places = 0 then division.rounded? divisor
      else append places division

/-- `stripWords fuel q s` takes eight zeros at a time off a quotient whose low 32 bits are clear. -/
def stripWords : Nat → Nat → Nat → Nat × Nat
  | 0, q, s => (q, s)
  | fuel + 1, q, s =>
    if q % twoTo 32 = 0 && 8 ≤ s && q % tenTo 8 = 0 then stripWords fuel (q / tenTo 8) (s - 8)
    else (q, s)

/-- `stripDigits bits zeros (q, s)` takes that many zeros off a quotient whose low bits are clear.
-/
def stripDigits (bits zeros : Nat) (number : Nat × Nat) : Nat × Nat :=
  let (q, s) := number
  if q % twoTo bits = 0 && zeros ≤ s && q % tenTo zeros = 0 then (q / tenTo zeros, s - zeros)
  else (q, s)

/-- `stripZeros q s` takes zeros off the end of a quotient. -/
def stripZeros (q s : Nat) : Nat × Nat :=
  stripDigits 1 1 (stripDigits 2 2 (stripDigits 4 4 (stripWords 4 q s)))

end Division

/-- `div? a b` is `a / b` for a `b` that is not zero. -/
def div? (a b : Decimal) : Option Decimal := do
  if a.isZero then return zero
  let start : Division :=
    ⟨a.mantissa / b.mantissa, (a.scale : Int) - b.scale, a.mantissa % b.mantissa, false⟩
  let division ← Division.run? b.mantissa 64 start
  let (mantissa, scale) :=
    if division.inexact then Division.stripZeros division.quotient division.scale.toNat
    else (division.quotient, division.scale.toNat)
  make? ((a.negative != b.negative) && mantissa != 0) mantissa scale

end Reshape.Decimal
