import StructGen.Source.Item

/-!
# Layout of a Go source

Items are written back with one space between words. Struct bodies are indented by a tab, and in
every run of consecutive fields the types start in one column and the tags in another. Of several
blank lines one is kept, and none at the edges of the source or of a struct.

* `Item.lines` are the lines of an item;
* `format` reads a source and lays it out.
-/

namespace StructGen.Source

/-! ### Blank lines -/

/-- The lines without blank ones after a blank line, `afterBlank` telling whether one stands
before them. -/
def collapseFrom (afterBlank : Bool) : List String → List String
  | [] => []
  | line :: lines =>
    if line = "" then
      if afterBlank then collapseFrom true lines else "" :: collapseFrom true lines
    else line :: collapseFrom false lines

/-- The lines without a blank one at the end. -/
def dropBlankEnd (lines : List String) : List String :=
  if lines.getLast? = some "" then lines.dropLast else lines

/-- The lines with single blank ones between them and none at the edges. -/
def collapseBlanks (lines : List String) : List String :=
  dropBlankEnd (collapseFrom true lines)

/-! ### Fields -/

/-- The length of the longest text. -/
def maxLength (texts : List String) : Nat := (texts.map String.length).foldl max 0

/-- A field with its type and its tag in given columns. -/
def Field.text (nameWidth typeWidth : Nat) (f : Field) : String :=
  if f.tag.isEmpty then "\t" ++ Text.padRight nameWidth f.name ++ f.type
  else "\t" ++ Text.padRight nameWidth f.name ++ Text.padRight typeWidth f.type ++ f.tag

/-- A run of fields, each column one past the longest entry before it. -/
def alignRun (run : List Field) : List String :=
  run.map (Field.text (maxLength (run.map (·.name)) + 1) (maxLength (run.map (·.type)) + 1))

/-- The lines of a struct body after the fields in `run`, which are reversed. -/
def bodyLinesFrom (run : List Field) : List BodyLine → List String
  | [] => alignRun run.reverse
  | .field f :: body => bodyLinesFrom (f :: run) body
  | .blank :: body => alignRun run.reverse ++ "" :: bodyLinesFrom [] body
  | .comment text :: body => alignRun run.reverse ++ ("\t" ++ text) :: bodyLinesFrom [] body

/-- The lines of a struct body. -/
def bodyLines (body : List BodyLine) : List String := collapseBlanks (bodyLinesFrom [] body)

/-! ### Sources -/

/-- The lines of an item. -/
def Item.lines : Item → List String
  | .blank => [""]
  | .comment text => [text]
  | .package name => ["package " ++ name]
  | .struct name body => ("type " ++ name ++ " struct \x7b") :: bodyLines body ++ ["\x7d"]
  | .alias name type => ["type " ++ name ++ " " ++ type]
  | .function text => [text]

/-- The lines of a source, blank ones as they come. -/
def sourceLines (items : List Item) : List String := items.flatMap Item.lines

/-- The text of a source. -/
def sourceText (items : List Item) : String :=
  Text.joinWith "\n" (collapseBlanks (sourceLines items)) ++ "\n"

/-- A source laid out. -/
def format (source : String) : Except Failure String := sourceText <$> readItems source

end StructGen.Source
