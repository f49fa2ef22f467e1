import StructGen.CommandLine.Emoji
import StructGen.Text.Wrap
import StructGen.Notice

/-!
# The console

What is shown of the texts that are printed. Printing knows tags in square brackets and keeps them
out of texts by backslashes, which shows in two places: a backslash before a bracket that opens no
tag is lost, and a single backslash at the end of a text is doubled. Emoji are put for their names.

* `shown` is the text that appears for a text;
* `noticeLines` and `metadataLines` are the lines for notices and for metadata.
-/

namespace StructGen.CommandLine

/-! ### Texts and tags -/

/-- Whether what follows an opening bracket makes it a tag. -/
def opensTag : List Char → Bool
  | c :: cs =>
    (c.isLower || c == '#' || c == '/' || c == '@') &&
      (cs.dropWhile fun d => d != '[' && d != ']').head? == some ']'
  | [] => false

/-- What appears for a text, with `none` between its pieces: what looks like a tag is a piece of its
own, and so are the backslashes before it. Here `slashes` is the number of backslashes just read,
`inTag` tells whether a tag is open, and `ending` is what appears for backslashes at the end. -/
def shownFrom (ending : Nat → List (Option Char)) (slashes : Nat) (inTag : Bool) :
    List Char → List (Option Char)
  | [] => ending slashes
  | c :: cs =>
    if inTag then
      if c == ']' then some c :: none :: shownFrom ending 0 false cs
      else some c :: shownFrom ending 0 true cs
    else if c == '\\' then shownFrom ending (slashes + 1) false cs
    else if c == '[' && opensTag cs then
      none :: List.replicate slashes (some '\\') ++ none :: some c :: shownFrom ending 0 true cs
    else if c == '[' then
      List.replicate (slashes - 1) (some '\\') ++ some c :: shownFrom ending 0 false cs
    else List.replicate slashes (some '\\') ++ some c :: shownFrom ending 0 false cs

/-- The pieces of what appears. -/
def piecesOf : List (Option Char) → List (List Char)
  | [] => [[]]
  | none :: cs => [] :: piecesOf cs
  | some c :: cs =>
    match piecesOf cs with
    | [] => [[c]]
    | piece :: pieces => (c :: piece) :: pieces

/-- A single backslash at the end of a text is doubled. -/
def doubledSlashes (slashes : Nat) : Nat := if slashes == 1 then 2 else slashes

/-- What appears for a text, with the emoji for the names in each piece. -/
def shownWith (ending : Nat → List (Option Char)) (text : String) : String :=
  String.ofList ((piecesOf (shownFrom ending 0 false text.toList)).flatMap withEmoji)

/-- The text that appears for a text. -/
def shown (text : String) : String :=
  shownWith (fun n => List.replicate (doubledSlashes n) (some '\\')) text

/-- The text that appears for a text before a closing tag. Backslashes count in pairs there, and one
that is left over makes the tag appear. -/
def shownBefore (tag : String) (text : String) : String :=
  shownWith
    (fun n =>
      let n := doubledSlashes n
      none :: List.replicate (n / 2) (some '\\') ++
        if n % 2 == 1 then none :: tag.toList.map some else [])
    text

/-! ### Lines -/

/-- Whether a console leaves a character out. -/
def isSilent (c : Char) : Bool :=
  c == '\x07' || c == '\x08' || c == '\x0b' || c == '\x0c' || c == '\r'

/-- A text without the characters that a console leaves out. -/
def audible (text : String) : List Char := text.toList.filter (!isSilent ·)

/-- The width of the console. -/
def consoleWidth : Nat := 10000

/-- The lines that a text takes in a column of the console. -/
def columnLines (o : Text.Overflow) (width : Nat) (text : String) : List String :=
  ((audible text).splitOn '\n').flatMap fun line =>
    (Text.wrapLine o width (Text.expandTabs line)).map String.ofList

/-- A text as it is printed. -/
def printed (text : String) : String := Text.unlines (columnLines .fold consoleWidth text)

/-! ### Notices -/

/-- The width of the column of levels. -/
def levelWidth : Nat := 8

/-- The lines of a notice: its text stands beside its level. -/
def noticeLines (n : Notice) : List String :=
  match columnLines .fold (consoleWidth - levelWidth - 1) n.text with
  | [] => []
  | line :: lines =>
    (Text.padRight levelWidth n.level.word ++ " " ++ line) ::
      lines.map fun l => Text.padRight (levelWidth + 1) "" ++ l

/-- The notices from a level on, as they are printed. -/
def noticesText (level : Level) (notices : List Notice) : String :=
  Text.unlines ((notices.filter fun n => level.rank ≤ n.level.rank).flatMap noticeLines)

/-! ### The table of metadata -/

/-- A row of the table. -/
structure Row where
  property : String
  value : String

/-- The title of the table. -/
def tableTitle : String := "📊 Generation Metadata"

/-- The heads of the two columns. -/
def tableHead : Row := ⟨"Property", "Value"⟩

/-- The cells of a text. -/
def cells (text : String) : Nat := Text.cellCount text.toList

/-- The greatest number of cells among texts. -/
def widest (texts : List String) : Nat := (texts.map cells).foldl max 0

/-- The cells that a value asks for: those of its longest line. -/
def Row.cells (r : Row) : Nat := widest (Text.splitLines (String.ofList (audible r.value)))

/-- The lines of a row with columns of the given widths: a value of several lines goes on below
itself. -/
def Row.lines (first second : Nat) (r : Row) : List String :=
  match columnLines .ellipsis second r.value with
  | [] => []
  | value :: values =>
    ("  " ++ Text.padRight first r.property ++ "   " ++ value) ::
      values.map fun v => "  " ++ Text.padRight first "" ++ "   " ++ v

/-- The lines of a table of two columns, set off by empty lines. -/
def tableLines (rows : List Row) : List String :=
  let all := tableHead :: rows
  let first := widest (all.map (·.property))
  let second := min ((all.map Row.cells).foldl max 0) (consoleWidth - first - 7)
  let width := first + second + 7
  let margin := (width - cells tableTitle) / 2
  ["", Text.padRight margin "" ++ tableTitle, ""] ++ tableHead.lines first second ++
    [" " ++ String.ofList (List.replicate (first + second + 5) '─')] ++
    rows.flatMap (Row.lines first second) ++ [""]

/-- A key with blanks for underscores and a capital at the start of each word. -/
def titled (key : String) : String :=
  Text.joinWith " " ((Text.split '_' key).map fun word =>
    match word.toList with
    | c :: cs => String.ofList (c.toUpper :: cs)
    | [] => "")

/-- The lines for metadata. -/
def metadataLines (entries : Entries) : List String :=
  tableLines (entries.map fun (key, value) => ⟨titled key, shown value.display⟩)

end StructGen.CommandLine
