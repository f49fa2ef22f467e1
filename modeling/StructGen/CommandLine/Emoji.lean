import StructGen.CommandLine.EmojiCodes
import StructGen.Text.Blank
import StructGen.Text.Letter
import StructGen.Text.Lines

/-!
# Emoji by name

A name between colons stands for an emoji when it is known. It may end in `-emoji` or `-text`,
which asks for the coloured or the plain form; the name of a person or a part of one may end in a
tone of skin. What is not known stays as it is written, and its second colon starts no other name.

* `emoji?` is the emoji that a name stands for;
* `withEmoji` puts the emoji for the names in a text.
-/

namespace StructGen.CommandLine

/-- The endings of names that ask for a tone of skin, with the characters for the tones. -/
def skinTones : List (String × Char) := [
  ("_light_skin_tone", Char.ofNat 0x1F3FB), ("_medium-light_skin_tone", Char.ofNat 0x1F3FC),
  ("_medium_skin_tone", Char.ofNat 0x1F3FD), ("_medium-dark_skin_tone", Char.ofNat 0x1F3FE),
  ("_dark_skin_tone", Char.ofNat 0x1F3FF)]

/-- An emoji in a tone of skin, which takes the place of a selector behind the first character. -/
def withTone (tone : Char) : List Char → List Char
  | [] => []
  | c :: cs => c :: tone :: if cs.head? = some '\ufe0f' then cs.tail else cs

/-- The emoji that a name stands for by an entry of the table. -/
def emojiBy? (entry name : List Char) : Option (List Char) :=
  let known := entry.takeWhile (· != ' ')
  let emoji := (entry.dropWhile (· != ' ')).tail
  if known.getLast? = some '~' then
    if known.dropLast = name then some emoji
    else skinTones.findSome? fun (ending, tone) =>
      if known.dropLast ++ ending.toList = name then some (withTone tone emoji) else none
  else if known = name then some emoji
  else none

/-- The emoji that a name stands for. -/
def emojiNamed? (name : List Char) : Option (List Char) :=
  let name := (Text.lower (String.ofList name)).toList
  ((emojiCodes.flatMap String.toList).splitOn ';').findSome? (emojiBy? · name)

/-- A text without the ending `suffix`, if it has it. -/
def without? (suffix : String) (cs : List Char) : Option (List Char) :=
  if suffix.toList.isSuffixOf cs then some (cs.take (cs.length - suffix.length)) else none

/-- The emoji that a name stands for, which may say its form. -/
def emoji? (name : List Char) : Option (List Char) :=
  match without? "-emoji" name, without? "-text" name with
  | some plain, _ => (emojiNamed? plain).map (· ++ ['\ufe0f'])
  | none, some plain => (emojiNamed? plain).map (· ++ ['\ufe0e'])
  | none, none => emojiNamed? name

/-- The text in which names have been replaced, `name` being what follows an open colon,
reversed. -/
def withEmojiFrom (name : Option (List Char)) : List Char → List Char
  | [] =>
    match name with
    | some name => ':' :: name.reverse
    | none => []
  | c :: cs =>
    match name with
    | none => if c = ':' then withEmojiFrom (some []) cs else c :: withEmojiFrom none cs
    | some name =>
      if c = ':' then
        (emoji? name.reverse).getD (':' :: name.reverse ++ [':']) ++ withEmojiFrom none cs
      else if Text.isBlank c then ':' :: name.reverse ++ c :: withEmojiFrom none cs
      else withEmojiFrom (some (c :: name)) cs

/-- A text with the emoji for the names in it. -/
def withEmoji (cs : List Char) : List Char := withEmojiFrom none cs

end StructGen.CommandLine
