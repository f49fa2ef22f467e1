/-!
# Lines and joins

* `split` cuts at every occurrence of one character and keeps empty parts;
* `splitLines` cuts at every line boundary of any script and drops the part after the last
  boundary when it is empty;
* `joinWith` puts a separator between parts, `unlines` a line feed behind each of them.
-/

namespace StructGen.Text

/-- The parts of a text between the occurrences of `sep`. -/
def split (sep : Char) (s : String) : List String :=
  (s.toList.splitOn sep).map String.ofList

/-- The characters that end a line, a carriage return with a line feed counting once. -/
def isLineBoundary (c : Char) : Bool :=
  c == '\n' || c == '\r' || c == '\x0b' || c == '\x0c' || c == '\x1c' || c == '\x1d' ||
    c == '\x1e' || c == '\u0085' || c == '\u2028' || c == '\u2029'

/-- The lines before a position, `line` being the one that is open there, reversed. -/
def splitLinesFrom (line : List Char) : List Char → List (List Char)
  | [] => if line.isEmpty then [] else [line.reverse]
  | '\r' :: '\n' :: cs => line.reverse :: splitLinesFrom [] cs
  | c :: cs =>
    if isLineBoundary c then line.reverse :: splitLinesFrom [] cs
    else splitLinesFrom (c :: line) cs

/-- The lines of a text, cut at the line boundaries of all scripts. -/
def splitLines (s : String) : List String :=
  (splitLinesFrom [] s.toList).map String.ofList

/-- The parts with `sep` between them. -/
def joinWith (sep : String) : List String → String
  | [] => ""
  | [part] => part
  | part :: parts => part ++ sep ++ joinWith sep parts

@[simp] theorem joinWith_nil (sep : String) : joinWith sep [] = "" := rfl

@[simp] theorem joinWith_singleton (sep part : String) : joinWith sep [part] = part := rfl

theorem joinWith_cons_cons (sep part next : String) (parts : List String) :
    joinWith sep (part :: next :: parts) = part ++ sep ++ joinWith sep (next :: parts) := rfl

/-- Texts, each ended by a line feed. -/
def unlines (texts : List String) : String := String.join (texts.map (· ++ "\n"))

/-- Whether `part` occurs in a text. -/
def occursIn (part : List Char) : List Char → Bool
  | [] => part.isEmpty
  | c :: cs => part.isPrefixOf (c :: cs) || occursIn part cs

/-- A text padded on the right to a number of characters. -/
def padRight (width : Nat) (s : String) : String :=
  s ++ String.ofList (List.replicate (width - s.length) ' ')

/-- A carriage return, with the line feed after it if there is one, read as a line feed. -/
def foldNewlines : List Char → List Char
  | [] => []
  | '\r' :: '\n' :: cs => '\n' :: foldNewlines cs
  | c :: cs => (if c = '\r' then '\n' else c) :: foldNewlines cs

end StructGen.Text
