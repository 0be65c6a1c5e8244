import Reshape.Decimal.Basic
import Reshape.Number.Digits

/-!
# Decimals as texts

`Decimal.render` writes exactly as many decimal places as the scale says. `Decimal.read?` reads
plain notation, where a digit that no longer fits rounds the number and ends it, and failing that
notation with an exponent. Underscores separate digits; after the last place that there is, an
underscore ends a short number.
-/

namespace Reshape.Decimal

/-- `d.renderChars` writes the sign, the whole digits and `scale` decimal places. -/
def renderChars (d : Decimal) : List Char :=
  let digits := padded d.mantissa (d.scale + 1)
  let whole := digits.length - d.scale
  (if d.negative then ['-'] else []) ++ digits.take whole ++
    (if d.scale = 0 then [] else '.' :: digits.drop whole)

/-- `d.render` is `d` as a text. -/
def render (d : Decimal) : String :=
  String.ofList d.renderChars

/-- A `Reading` is what has been read of a number. `full` is set once the number has been ended, by
rounding a digit away or by an underscore at the last place: digits and underscores may still follow
but no longer count, and anything else is refused as before. -/
structure Reading where
  mantissa : Nat
  scale : Nat
  started : Bool
  point : Bool
  full : Bool

namespace Reading

/-- `empty` has read nothing. -/
def empty : Reading := ⟨0, 0, false, false, false⟩

/-- `reading.rounded? digit` ends the number by rounding `digit` away. -/
def rounded? (reading : Reading) (digit : Nat) : Option Reading :=
  let mantissa := if 5 ≤ digit then reading.mantissa + 1 else reading.mantissa
  if mantissa < mantissaBound then some { reading with mantissa, full := true }
  else if reading.scale = 0 then none
  else
    some { reading with
      mantissa := (mantissa + 4) / 10, scale := reading.scale - 1, full := true }

/-- `reading.digit? digit` is the reading after a digit. -/
def digit? (reading : Reading) (digit : Nat) : Option Reading :=
  let mantissa := reading.mantissa * 10 + digit
  if reading.full then some reading
  else if reading.point then
    if reading.scale = 28 || mantissaBound ≤ mantissa then reading.rounded? digit
    else some { reading with mantissa, scale := reading.scale + 1, started := true }
  else if mantissa < mantissaBound then some { reading with mantissa, started := true }
  else none

/-- `shortBound` bounds the numbers that can take another digit in a word of 64 bits, with some room
to spare. -/
def shortBound : Nat := (twoTo 64 - 1) / 10 - 255

/-- `reading.underscore` is the reading after an underscore. A number whose last place has been read
is ended by it if the number was short before that place. -/
def underscore (reading : Reading) : Reading :=
  if reading.scale = 28 && reading.mantissa / 10 < shortBound then { reading with full := true }
  else reading

/-- `reading.step? c` is the reading after `c`: a digit, the one point, or an underscore somewhere
after the first digit. -/
def step? (reading : Reading) (c : Char) : Option Reading :=
  if c.isDigit then reading.digit? (c.toNat - 48)
  else if c = '.' && !reading.point then some { reading with point := true }
  else if c = '_' && reading.started then some reading.underscore
  else none

end Reading

/-- `takeSign cs` says whether `cs` has a minus sign, and gives what follows the sign. -/
def takeSign : List Char → Bool × List Char
  | '-' :: rest => (true, rest)
  | '+' :: rest => (false, rest)
  | cs => (false, cs)

/-- `readPlain? cs` reads a number without exponent. A zero has no sign. -/
def readPlain? (cs : List Char) : Option Decimal := do
  let (negative, cs) := takeSign cs
  let reading ← cs.foldlM Reading.step? Reading.empty
  guard reading.started
  make? (negative && reading.mantissa != 0) reading.mantissa reading.scale

/-- `readWord? cs` reads digits, after an optional plus sign, as an unsigned word of 32 bits. -/
def readWord? (cs : List Char) : Option Nat :=
  let digits := match cs with
    | '+' :: rest => rest
    | cs => cs
  if digits.isEmpty || !digits.all Char.isDigit then none
  else
    let value := digitsValue digits
    if value < twoTo 32 then some value else none

/-- `d.scaledDown? places` is `d` divided by `10 ^ places`, rounded half up when that needs more
decimal places than there are. -/
def scaledDown? (d : Decimal) (places : Nat) : Option Decimal :=
  if 28 < places then none
  else if 28 < d.scale + places then
    make? d.negative (roundHalfUp d.mantissa (tenTo (d.scale + places - 28))) 28
  else make? d.negative d.mantissa (d.scale + places)

/-- `d.scaledUp? places` is `d` multiplied by `10 ^ places`, if that fits. -/
def scaledUp? (d : Decimal) (places : Nat) : Option Decimal :=
  if places ≤ d.scale then make? d.negative d.mantissa (d.scale - places)
  else if 28 < places then none
  else make? d.negative (d.mantissa * tenTo (places - d.scale)) 0

/-- `readScientific? cs` reads a number with an exponent after the first `e` or `E`. -/
def readScientific? (cs : List Char) : Option Decimal := do
  let isMark (c : Char) : Bool := c = 'e' || c = 'E'
  let base ← readPlain? (cs.takeWhile (!isMark ·))
  match cs.dropWhile (!isMark ·) with
  | _ :: '-' :: exponent => base.scaledDown? (← readWord? exponent)
  | _ :: exponent => base.scaledUp? (← readWord? exponent)
  | [] => none

/-- `read? s` is the decimal that the text `s` stands for. -/
def read? (s : String) : Option Decimal :=
  readPlain? s.toList <|> readScientific? s.toList

end Reshape.Decimal
