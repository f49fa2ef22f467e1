import StructGen.Text.Ranges

/-!
# Blanks, stripping and words

A blank is a white-space character of any script: the ASCII blanks, the four information
separators, the next-line mark and the Unicode spaces. Zero-width characters are not blanks.

* `strip` removes the blanks around a text;
* `words` cuts a text at its blanks.
-/

namespace StructGen.Text

/-- The blanks of all scripts. -/
def blanks : CharRanges := ⟨[
  (0x09, 0x0D), (0x1C, 0x20), (0x85, 0x85), (0xA0, 0xA0), (0x1680, 0x1680), (0x2000, 0x200A),
  (0x2028, 0x2029), (0x202F, 0x202F), (0x205F, 0x205F), (0x3000, 0x3000)]⟩

/-- Whether a character is a blank. -/
def isBlank (c : Char) : Bool := blanks.contains c

/-- A text without its trailing characters that satisfy `p`. -/
def dropTrailing (p : Char → Bool) (cs : List Char) : List Char :=
  (cs.reverse.dropWhile p).reverse

/-- A text without the blanks around it. -/
def stripChars (cs : List Char) : List Char :=
  dropTrailing isBlank (cs.dropWhile isBlank)

/-- A text without the blanks around it. -/
def strip (s : String) : String := String.ofList (stripChars s.toList)

@[simp] theorem stripChars_nil : stripChars [] = [] := rfl

@[simp] theorem strip_toList (s : String) : (strip s).toList = stripChars s.toList := by
  simp [strip]

/-- A text without the trailing copies of one character. -/
def dropEnd (s : String) (c : Char) : String :=
  String.ofList (dropTrailing (· == c) s.toList)

/-- The words before a position, `word` being the one that is open there, reversed. -/
def wordsFrom (word : List Char) : List Char → List (List Char)
  | [] => if word.isEmpty then [] else [word.reverse]
  | c :: cs =>
    if isBlank c then
      if word.isEmpty then wordsFrom [] cs else word.reverse :: wordsFrom [] cs
    else wordsFrom (c :: word) cs

/-- The maximal runs of characters other than blanks. -/
def words (cs : List Char) : List (List Char) := wordsFrom [] cs

end StructGen.Text
