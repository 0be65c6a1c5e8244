/-!
# Decimal digits

Natural numbers and integers in decimal digits.
-/

namespace Reshape

/-- `padded n width` are the digits of `n`, at least `width` of them. -/
def padded (n width : Nat) : List Char :=
  let digits := Nat.toDigits 10 n
  List.replicate (width - digits.length) '0' ++ digits

/-- `naturalText n` is the text of the digits of `n`. -/
def naturalText (n : Nat) : String := String.ofList (Nat.toDigits 10 n)

/-- `integerChars n` are the digits of `n` after its sign. -/
def integerChars : Int → List Char
  | .ofNat n => Nat.toDigits 10 n
  | .negSucc n => '-' :: Nat.toDigits 10 (n + 1)

/-- `digitsValue cs` is the number that decimal digits write. -/
def digitsValue (cs : List Char) : Nat :=
  cs.foldl (fun value c => value * 10 + (c.toNat - 48)) 0

end Reshape
