import Reshape.Text.CaseTables

/-!
# Upper and lower case

Texts change case character by character, except that a capital sigma becomes a final sigma at the
end of a word: after a cased letter and not before one, case-ignorable characters apart.
-/

namespace Reshape.Text

/-- `mapped expansions runs c` is what `c` becomes under a table of case mappings. -/
def mapped (expansions : List (Nat × List Nat)) (runs : List CaseRun) (c : Char) : List Char :=
  match expansions.lookup c.toNat with
  | some codes => codes.map Char.ofNat
  | none =>
    match runs.find? (·.covers c.toNat) with
    | some run => [Char.ofNat (c.toNat + run.shift).toNat]
    | none => [c]

/-- `upper c` is the upper case form of `c`. -/
def upper (c : Char) : List Char :=
  mapped upperExpansions upperRuns c

/-- `lower c` is the lower case form of `c` outside a word's end. -/
def lower (c : Char) : List Char :=
  mapped lowerExpansions lowerRuns c

/-- `meetsCased cs` says the first character of `cs` that is not case-ignorable is cased. -/
def meetsCased (cs : List Char) : Bool :=
  match cs.dropWhile caseIgnorable.contains with
  | c :: _ => cased.contains c
  | [] => false

/-- `sigma before after` is the lower case sigma that stands between the reversed text `before` and
the text `after`. -/
def sigma (before after : List Char) : Char :=
  if meetsCased before && !meetsCased after then '\u03c2' else '\u03c3'

/-- `lowerAfter before cs` is `cs` in lower case when the reversed text `before` precedes it. -/
def lowerAfter (before : List Char) : List Char → List Char
  | [] => []
  | c :: rest =>
    (if c = '\u03a3' then [sigma before rest] else lower c) ++ lowerAfter (c :: before) rest

/-- `toUpper s` is `s` in upper case. -/
def toUpper (s : String) : String :=
  String.ofList (s.toList.flatMap upper)

/-- `toLower s` is `s` in lower case. -/
def toLower (s : String) : String :=
  String.ofList (lowerAfter [] s.toList)

end Reshape.Text
