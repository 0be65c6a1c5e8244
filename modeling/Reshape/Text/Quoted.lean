import Reshape.Text.Printable

/-!
# Quoted texts

A text between double quotes in which quotes, backslashes and control characters are escaped and
every character that does not show as itself is given by its code point.
-/

namespace Reshape.Text

/-- `escaped c` is how `c` is written between double quotes. -/
def escaped (c : Char) : List Char :=
  match c with
  | '\x00' => ['\\', '0']
  | '\t' => ['\\', 't']
  | '\r' => ['\\', 'r']
  | '\n' => ['\\', 'n']
  | '"' => ['\\', '"']
  | '\\' => ['\\', '\\']
  | c =>
    if isPrintable c then [c]
    else ['\\', 'u', '\x7b'] ++ Nat.toDigits 16 c.toNat ++ ['\x7d']

/-- `quoted s` is `s` between double quotes. -/
def quoted (s : String) : String :=
  String.ofList ('"' :: (s.toList.flatMap escaped ++ ['"']))

end Reshape.Text
