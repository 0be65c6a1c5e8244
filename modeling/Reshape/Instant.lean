import Reshape.Calendar
import Reshape.Number.Digits

/-!
# Instants

A point in time, in seconds since the start of 1970 in UTC and nanoseconds. A leap second is kept
as the second before it with a thousand million nanoseconds more, so it comes after all of that
second and before the next. `Instant.read?` reads the RFC 3339 form in any offset, `Instant.render`
writes it in UTC.
-/

namespace Reshape

/-- An `Instant` is a second and the nanoseconds after its start. -/
structure Instant where
  seconds : Int
  nanoseconds : Nat
deriving DecidableEq

namespace Instant

/-- `epochDay` is the first day of 1970. -/
def epochDay : Int := 719528

/-- `nanosPerSecond` is the number of nanoseconds in a second. -/
def nanosPerSecond : Nat := 1000000000

/-- `earliest` is the first instant that can be held. -/
def earliest : Instant := ⟨(Date.yearStart (-262143) - epochDay) * 86400, 0⟩

/-- `a.compare b` tells which instant comes first. -/
protected def compare (a b : Instant) : Ordering :=
  (Ord.compare a.seconds b.seconds).then (Ord.compare a.nanoseconds b.nanoseconds)

/-- `yearChars year` is a year of four digits, with a sign when it is negative or longer. -/
def yearChars (year : Int) : List Char :=
  let sign := if year < 0 then ['-'] else if 9999 < year then ['+'] else []
  sign ++ padded year.natAbs 4

/-- `fractionChars n` is a fraction of a second in three, six or nine digits, the fewest that are
exact, and none for zero. -/
def fractionChars (n : Nat) : List Char :=
  if n = 0 then []
  else if n % 1000000 = 0 then '.' :: padded (n / 1000000) 3
  else if n % 1000 = 0 then '.' :: padded (n / 1000) 6
  else '.' :: padded n 9

/-- `t.render` is `t` in UTC. -/
def render (t : Instant) : String :=
  let date := Date.ofDay (t.seconds.fdiv 86400 + epochDay)
  let second := (t.seconds.fmod 86400).toNat
  let leap := t.nanoseconds / nanosPerSecond
  String.ofList <|
    yearChars date.year ++ '-' :: padded date.month 2 ++ '-' :: padded date.dayOfMonth 2 ++
    'T' :: padded (second / 3600) 2 ++ ':' :: padded (second / 60 % 60) 2 ++
    ':' :: padded (second % 60 + leap) 2 ++ fractionChars (t.nanoseconds % nanosPerSecond) ++
    "+00:00".toList

/-- `digits? width cs` reads exactly `width` digits at the front of `cs`. -/
def digits? (width : Nat) (cs : List Char) : Option (Nat × List Char) :=
  let front := cs.take width
  if front.length = width && front.all Char.isDigit then
    some (digitsValue front, cs.drop width)
  else none

/-- `mark? allowed cs` drops one of the allowed characters from the front of `cs`. -/
def mark? (allowed : List Char) : List Char → Option (List Char)
  | c :: rest => if c ∈ allowed then some rest else none
  | [] => none

/-- `fraction? cs` reads a point and digits, keeping nine of them, as nanoseconds. -/
def fraction? : List Char → Option (Nat × List Char)
  | '.' :: rest =>
    let digits := rest.takeWhile Char.isDigit
    if digits.isEmpty then none
    else
      some (digitsValue ((digits ++ List.replicate 9 '0').take 9), rest.dropWhile Char.isDigit)
  | cs => some (0, cs)

/-- `offset? cs` reads all of `cs` as an offset from UTC in seconds. -/
def offset? : List Char → Option Int
  | ['Z'] | ['z'] => some 0
  | sign :: rest => do
    let factor : Int ←
      if sign = '+' then some 1 else if sign = '-' || sign = '\u2212' then some (-1) else none
    let (hours, rest) ← digits? 2 rest
    let (minutes, rest) ← digits? 2 (← mark? [':'] rest)
    guard (rest.isEmpty && minutes < 60 && hours < 24)
    return factor * (hours * 3600 + minutes * 60 : Nat)
  | [] => none

/-- `readChars? cs` reads a date, a time and an offset. -/
def readChars? (cs : List Char) : Option Instant := do
  let (year, cs) ← digits? 4 cs
  let (month, cs) ← digits? 2 (← mark? ['-'] cs)
  let (dayOfMonth, cs) ← digits? 2 (← mark? ['-'] cs)
  let (hour, cs) ← digits? 2 (← mark? ['T', 't', ' '] cs)
  let (minute, cs) ← digits? 2 (← mark? [':'] cs)
  let (second, cs) ← digits? 2 (← mark? [':'] cs)
  let (nanoseconds, cs) ← fraction? cs
  let offset ← offset? cs
  let date : Date := ⟨year, month, dayOfMonth⟩
  guard (date.isValid && hour < 24 && minute < 60 && second ≤ 60)
  let secondOfDay : Int := (hour * 3600 + minute * 60 + min second 59 : Nat)
  let leap := if second = 60 then nanosPerSecond else 0
  return ⟨(date.day - epochDay) * 86400 + secondOfDay - offset, nanoseconds + leap⟩

/-- `read? s` is the instant that the text `s` stands for. -/
def read? (s : String) : Option Instant := readChars? s.toList

end Instant

end Reshape
