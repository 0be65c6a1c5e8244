import Reshape.Number.Digits
import Reshape.Number.Shortest

/-!
# Numbers in JSON

A number is written as a sign, whole digits, and optional fraction and exponent digits
(`NumberText`). It is held as an integer when it has neither fraction nor exponent and fits 64 bits,
signed or unsigned; negative zero and all other numbers are held in binary64 (`Number`).

Reading into binary64 is the two-step kind: the digits that fit an unsigned 64-bit word are
gathered, and the word is then multiplied or divided by a power of ten, each step rounding once.
Writing uses the shortest digits that identify the number.
-/

namespace Reshape.Json

/-- A `NumberText` is a number as written. `fraction` is empty when there is no fraction; an
exponent is a sign, negative if `true`, and digits. -/
structure NumberText where
  negative : Bool
  whole : List Nat
  fraction : List Nat
  exponent : Option (Bool × List Nat)

namespace NumberText

/-- `takeDigits cs` are the digits at the front of `cs` and the characters after them. -/
def takeDigits (cs : List Char) : List Nat × List Char :=
  ((cs.takeWhile Char.isDigit).map (fun c => c.toNat - 48), cs.dropWhile Char.isDigit)

/-- `takeSign cs` says whether a minus sign starts `cs`, and gives what follows it. -/
def takeSign : List Char → Bool × List Char
  | '-' :: rest => (true, rest)
  | cs => (false, cs)

/-- `takeFraction? cs` are the digits after a point at the front of `cs`; a point needs a digit. -/
def takeFraction? : List Char → Option (List Nat × List Char)
  | '.' :: rest =>
    let (digits, rest) := takeDigits rest
    if digits.isEmpty then none else some (digits, rest)
  | cs => some ([], cs)

/-- `takeExponent? cs` is the exponent at the front of `cs`; it needs a digit. -/
def takeExponent? : List Char → Option (Option (Bool × List Nat) × List Char)
  | c :: rest =>
    if c = 'e' || c = 'E' then
      let (negative, rest) := match rest with
        | '+' :: rest => (false, rest)
        | '-' :: rest => (true, rest)
        | rest => (false, rest)
      let (digits, rest) := takeDigits rest
      if digits.isEmpty then none else some (some (negative, digits), rest)
    else some (none, c :: rest)
  | [] => some (none, [])

/-- `ofChars? cs` reads `cs` as a number: no superfluous leading zero, and nothing left over. -/
def ofChars? (cs : List Char) : Option NumberText := do
  let (negative, cs) := takeSign cs
  let (whole, cs) := takeDigits cs
  guard (!whole.isEmpty && (whole.head? != some 0 || whole.length == 1))
  let (fraction, cs) ← takeFraction? cs
  let (exponent, cs) ← takeExponent? cs
  guard cs.isEmpty
  return ⟨negative, whole, fraction, exponent⟩

end NumberText

/-- A `Number` is an integer of 64 bits, signed or unsigned, or a binary64 number. -/
inductive Number where
  | integer (value : Int)
  | binary (value : Binary64)
deriving DecidableEq

namespace Number

/-- `gather word digits` appends digits to an unsigned 64-bit word while it can hold them, and gives
the digits left over. -/
def gather (word : Nat) : List Nat → Nat × List Nat
  | [] => (word, [])
  | digit :: rest =>
    if word * 10 + digit < twoTo 64 then gather (word * 10 + digit) rest else (word, digit :: rest)

/-- `shifted? word exponent` is `word * 10 ^ exponent` in binary64 by one multiplication or
division, or two divisions below the least power of ten. -/
def shifted? (word : Nat) (exponent : Int) : Option Binary64 := do
  let x ← Binary64.ofNat? word
  if x.isZero then return x
  match exponent with
  | .ofNat k => if k ≤ 308 then x.mul? (← Binary64.powerOfTen? k) else none
  | .negSucc k =>
    let places := k + 1
    if places ≤ 308 then x.div? (← Binary64.powerOfTen? places)
    else if places ≤ 616 then
      (← x.div? (← Binary64.powerOfTen? 308)).div? (← Binary64.powerOfTen? (places - 308))
    else return Binary64.zero

/-- `exponentValue digits` is the number written by the digits. -/
def exponentValue (digits : List Nat) : Nat :=
  digits.foldl (fun value digit => value * 10 + digit) 0

/-- `binaryOf? text` is the written number in binary64, or `none` when it is too large. -/
def binaryOf? (text : NumberText) : Option Binary64 := do
  let (word, dropped) := gather 0 text.whole
  let (word, unread) := gather word text.fraction
  let places : Int := dropped.length - (text.fraction.length - unread.length : Nat)
  let exponent := match text.exponent with
    | some (true, digits) => places - exponentValue digits
    | some (false, digits) => places + exponentValue digits
    | none => places
  let x ← shifted? word exponent
  return { x with negative := text.negative }

/-- `ofText? text` is the value of a written number, or `none` when it is too large. -/
def ofText? (text : NumberText) : Option Number :=
  let (word, dropped) := gather 0 text.whole
  if text.fraction.isEmpty && text.exponent.isNone && dropped.isEmpty then
    if !text.negative then some (.integer word)
    else if word ≠ 0 && word ≤ twoTo 63 then some (.integer (-word))
    else (binaryOf? text).map .binary
  else (binaryOf? text).map .binary

/-- `n.toInt64?` is the integer `n` if it is one and fits 64 signed bits. -/
def toInt64? : Number → Option Int64
  | .integer value =>
    if -(twoTo 63 : Int) ≤ value ∧ value < twoTo 63 then some (Int64.ofInt value) else none
  | .binary _ => none

/-- A `NumberLayout` says for which positions of the decimal point digits are written without an
exponent: `leastPoint < point ≤ greatestPoint`. -/
structure NumberLayout where
  leastPoint : Int
  greatestPoint : Int

/-- JSON numbers have no exponent from `0.00001` up to sixteen whole digits. -/
def layout : NumberLayout := ⟨-5, 16⟩

/-- `zeros n` are `n` zeros. -/
def zeros (n : Nat) : List Char := List.replicate n '0'

/-- `layout.render digits point` writes `0.digits * 10 ^ point`, with `.0` after a whole number. -/
def NumberLayout.render (layout : NumberLayout) (digits : List Char) (point : Int) : List Char :=
  if 0 < point ∧ point ≤ layout.greatestPoint then
    let places := point.toNat
    if digits.length ≤ places then digits ++ zeros (places - digits.length) ++ ['.', '0']
    else digits.take places ++ '.' :: digits.drop places
  else if layout.leastPoint < point ∧ point ≤ 0 then
    ['0', '.'] ++ zeros (-point).toNat ++ digits
  else
    let exponent := point - 1
    let mantissa := digits.take 1 ++ (if digits.length = 1 then [] else '.' :: digits.drop 1)
    mantissa ++ ['e', if exponent < 0 then '-' else '+'] ++ Nat.toDigits 10 exponent.natAbs

/-- `binaryChars x` is how a binary64 number is written. -/
def binaryChars (x : Binary64) : List Char :=
  (if x.negative then ['-'] else []) ++
    if x.isZero then ['0', '.', '0'] else layout.render x.shortest.digits x.shortest.point

/-- `n.render` is how `n` is written. -/
def render : Number → String
  | .integer value => String.ofList (integerChars value)
  | .binary value => String.ofList (binaryChars value)

end Number

end Reshape.Json
