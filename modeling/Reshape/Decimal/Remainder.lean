import Reshape.Decimal.Arithmetic

/-!
# Remainders of decimals

The operands are brought to one scale, and the divisor is taken as often as it goes. A divisor of at
most 64 bits leaves the exact rest. A longer one is divided into the dividend one word of 32 bits at
a time, both being shifted first until the divisor fills its 96 bits. A step of that division
estimates the next word of the quotient from the leading words. When the rest so far begins with the
same word as the divisor the estimate does not fit a word, and the step loses the leading word of
what it divides, so such a remainder is smaller than the divisor but need not be exact.
-/

namespace Reshape.Decimal

/-- `restAfter divisor rest word` is what a divisor of 96 bits leaves of `rest` followed by `word`.
-/
def restAfter (divisor rest word : Nat) : Nat :=
  let dividend := rest * twoTo 32 + word
  if dividend / twoTo 96 = divisor / twoTo 64 then dividend % twoTo 96 % divisor
  else dividend % divisor

/-- `restOfWords divisor count n` is what a divisor of 96 bits leaves of the `count` words of `n`,
the highest being divided first. -/
def restOfWords (divisor : Nat) : Nat → Nat → Nat
  | 0, _ => 0
  | count + 1, n =>
    restAfter divisor (restOfWords divisor count (n / twoTo 32)) (n % twoTo 32)

/-- `longRest n divisor` is what a divisor of 65 to 96 bits leaves of `n`. A mantissa at any scale,
shifted with the divisor, has at most seven words. -/
def longRest (n divisor : Nat) : Nat :=
  let shift := 95 - divisor.log2
  restOfWords (divisor * twoTo shift) 7 (n * twoTo shift) / twoTo shift

/-- `rem? a b` is the remainder of `a` by `b`, with the sign of `a`. -/
def rem? (a b : Decimal) : Option Decimal :=
  let s := max a.scale b.scale
  let left := (a.signedAt s).natAbs
  let right := (b.signedAt s).natAbs
  if a.isZero || left = right then some zero
  else if left < right then some a
  else
    let rest := if right < twoTo 64 then left % right else longRest left right
    make? (a.negative && rest != 0) rest s

end Reshape.Decimal
