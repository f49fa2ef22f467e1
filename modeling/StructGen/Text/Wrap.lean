import StructGen.Text.Blank
import StructGen.Text.Cells

/-!
# Wrapping lines

A line that is too long for its column is broken before the words that do not fit. A word that
fits no line is folded or cut.

* `Overflow` tells what becomes of such a word;
* `chunks` are the words of a line with the blanks around them;
* `wrapLine` gives the lines that a line takes in a column.
-/

namespace StructGen.Text

/-- What becomes of a word that fits no line. -/
inductive Overflow where
  /-- It goes on in the next line. -/
  | fold
  /-- It is cut, with an ellipsis for what is missing. -/
  | ellipsis
  deriving DecidableEq, Repr

/-- The words of a line, each with the blanks behind it and the first also with those before it;
there are at most `fuel`. A line of blanks has none. -/
def chunksFrom : (fuel : Nat) → List Char → List (List Char)
  | 0, _ => []
  | fuel + 1, cs =>
    let word := cs.takeWhile isBlank ++ (cs.dropWhile isBlank).takeWhile (!isBlank ·)
    let rest := (cs.dropWhile isBlank).dropWhile (!isBlank ·)
    if cs.all isBlank then []
    else (word ++ rest.takeWhile isBlank) :: chunksFrom fuel (rest.dropWhile isBlank)

/-- The words of a line, each with the blanks behind it and the first also with those before it. -/
def chunks (cs : List Char) : List (List Char) := chunksFrom cs.length cs

/-- The pieces of a word that is folded, none with more cells than `width`; `piece`, which is
reversed, is the piece that is being filled and takes `cells` cells. -/
def foldFrom (width : Nat) (piece : List Char) (cells : Nat) : List Cluster → List (List Char)
  | [] => if cells = 0 then [] else [piece.reverse]
  | c :: cs =>
    if cells + c.cells > width then piece.reverse :: foldFrom width c.chars.reverse c.cells cs
    else foldFrom width (c.chars.reverse ++ piece) (cells + c.cells) cs

/-- The pieces in which a word that does not fit a line is put on lines of its own. -/
def Overflow.pieces (o : Overflow) (width : Nat) (word : List Char) : List (List Char) :=
  match o with
  | .fold =>
    if cellCount (dropTrailing isBlank word) > width then foldFrom width [] 0 (clusters word)
    else [word]
  | .ellipsis => [word]

/-- Fill lines with the words of a line: `line` is the line that is being filled, if there is one,
and takes `cells` cells. -/
def fillLines (o : Overflow) (width : Nat) (line : Option (List Char)) (cells : Nat) :
    List (List Char) → List (List Char)
  | [] => line.toList
  | chunk :: rest =>
    if cells + cellCount (dropTrailing isBlank chunk) ≤ width then
      fillLines o width (some (line.getD [] ++ chunk)) (cells + cellCount chunk) rest
    else
      let pieces := o.pieces width chunk
      let last := pieces.getLast?.getD []
      line.toList ++ pieces.dropLast ++ fillLines o width (some last) (cellCount last) rest

/-- A line without the blanks at its end that go beyond the width. -/
def trimLine (width : Nat) (cs : List Char) : List Char :=
  let blanks := cs.length - (dropTrailing isBlank cs).length
  cs.take (cs.length - min blanks (cs.length - width))

/-- A line that is cut where it goes beyond the width. -/
def Overflow.cut (o : Overflow) (width : Nat) (cs : List Char) : List Char :=
  if cellCount cs ≤ width then cs
  else match o with
    | .fold => takeCells width cs
    | .ellipsis => takeCells (width - 1) cs ++ ['…']

/-- The lines that a line takes in a column. -/
def wrapLine (o : Overflow) (width : Nat) (cs : List Char) : List (List Char) :=
  let words := chunks cs
  let lines := if words.isEmpty then [cs] else fillLines o width none 0 words
  lines.map fun line => o.cut width (trimLine width line)

end StructGen.Text
