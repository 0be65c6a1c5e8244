import Reshape.Decimal.Basic
import Reshape.Number.Binary64

/-!
# Decimals in binary64

The binary64 number for a decimal is found in steps that round each: the decimal places as a
quotient, added to the whole part, and the sum cut to the decimal places that the scale allows.
-/

namespace Reshape.Decimal

/-- `powerBySquaring? fuel base exponent acc` is `acc * base ^ exponent`, each product rounded. -/
def powerBySquaring? : Nat → Binary64 → Nat → Binary64 → Option Binary64
  | 0, _, _, acc => some acc
  | fuel + 1, base, exponent, acc => do
    let acc ← if exponent % 2 = 1 then acc.mul? base else some acc
    if exponent / 2 = 0 then return acc
    powerBySquaring? fuel (← base.mul? base) (exponent / 2) acc

/-- `wholeHalfAway x` is the integer nearest to the absolute value of `x`, from the middle upwards.
-/
def wholeHalfAway (x : Binary64) : Nat :=
  let (n, d) := x.magnitude
  roundHalfUp n d

/-- `d.magnitude64?` is the binary64 number for the absolute value of `d`. -/
def magnitude64? (d : Decimal) : Option Binary64 := do
  if d.scale = 0 then return ← Binary64.ofNat? d.mantissa
  let power := tenTo d.scale
  let whole ← Binary64.ofNat? (d.mantissa / power)
  let places ← (← Binary64.ofNat? (d.mantissa % power)).div? (← Binary64.ofNat? power)
  if places.isZero then return whole
  let sum ← whole.addMagnitudes? places
  let factor ← powerBySquaring? 5 (← Binary64.ofNat? 10) d.scale (← Binary64.ofNat? 1)
  let cut ← Binary64.ofNat? (wholeHalfAway (← sum.mul? factor))
  cut.div? factor

/-- `d.toBinary64?` is the binary64 number for `d`. A zero without decimal places has no sign. -/
def toBinary64? (d : Decimal) : Option Binary64 :=
  d.magnitude64?.map fun x =>
    { x with negative := d.negative && !(d.scale == 0 && d.mantissa == 0) }

end Reshape.Decimal
