/-!
# Styled text

Text on a terminal may be coloured and emphasised by escape sequences. A `Palette` says whether it
is; without colours a styled text is the text itself.
-/

namespace Reshape

/-- A `Style` is how a text stands out. -/
inductive Style where
  | bold
  | dimmed
  | red
  | green
  | yellow
  | cyan
  | redBold
  | greenBold
  | yellowBold
  | cyanBold
deriving DecidableEq

/-- `style.codes` are the parameters of the escape sequence for `style`. -/
def Style.codes : Style → String
  | .bold => "1"
  | .dimmed => "2"
  | .red => "31"
  | .green => "32"
  | .yellow => "33"
  | .cyan => "36"
  | .redBold => "1;31"
  | .greenBold => "1;32"
  | .yellowBold => "1;33"
  | .cyanBold => "1;36"

/-- A `Palette` is the choice of plain or coloured output. -/
inductive Palette where
  | plain
  | coloured
deriving DecidableEq

namespace Palette

/-- `reset` ends all styles. -/
def reset : List Char := ['\x1b', '[', '0', 'm']

/-- `restyled start cs` puts the escape sequence `start` after every reset inside `cs`. -/
def restyled (start : List Char) : List Char → List Char
  | '\x1b' :: '[' :: '0' :: 'm' :: rest => reset ++ start ++ restyled start rest
  | c :: rest => c :: restyled start rest
  | [] => []

/-- `palette.paint style text` is `text` in that style. -/
def paint (palette : Palette) (style : Style) (text : String) : String :=
  match palette with
  | .plain => text
  | .coloured =>
    let start := ['\x1b', '['] ++ style.codes.toList ++ ['m']
    String.ofList (start ++ restyled start text.toList ++ reset)

end Palette

end Reshape
