import Reshape.Text.CodePoints

/-!
# Blanks

The characters with property White_Space, and the text left when they are taken off both ends.
`trim_length_le` bounds its length, which is what recursion through trimmed texts rests on.
-/

namespace Reshape.Text

/-- `blanks` holds the characters with property White_Space. -/
def blanks : CodePoints where
  boundaries := [
    9, 14, 32, 33, 133, 134, 160, 161, 0x1680, 0x1681, 0x2000, 0x200B, 0x2028, 0x202A, 0x202F,
    0x2030, 0x205F, 0x2060, 0x3000, 0x3001]

/-- `isBlank c` says `c` is white space. -/
def isBlank (c : Char) : Bool :=
  blanks.contains c

/-- `trim cs` is `cs` without the blanks at its two ends. -/
def trim (cs : List Char) : List Char :=
  ((cs.dropWhile isBlank).reverse.dropWhile isBlank).reverse

/-- Dropping the front of a list never makes it longer. -/
theorem dropWhile_length_le (p : Char → Bool) (cs : List Char) :
    (cs.dropWhile p).length ≤ cs.length :=
  (List.dropWhile_suffix p).length_le

/-- A trimmed text is no longer than the text. -/
theorem trim_length_le (cs : List Char) : (trim cs).length ≤ cs.length := by
  have front := dropWhile_length_le isBlank cs
  have back := dropWhile_length_le isBlank (cs.dropWhile isBlank).reverse
  simp only [trim, List.length_reverse] at back ⊢
  omega

/-- `trimmed s` is the text `s` without the blanks at its two ends. -/
def trimmed (s : String) : String :=
  String.ofList (trim s.toList)

end Reshape.Text
