import StructGen.Text.Blank
import StructGen.Text.Digit

/-!
# Integers in a text

An integer may have blanks around it and a sign before it. Its digits are of any script, and a
single underscore may stand between two of them.

* `readInteger` gives the integer that a text denotes.
-/

namespace StructGen.Text

/-- Whether a blank may stand around an integer: the information separators may not. -/
def isIntegerBlank (c : Char) : Bool := isBlank c && !('\x1c' ≤ c && c ≤ '\x1f')

/-- The digits of an integer, with single underscores between them. -/
def integerDigits : List Char → Option (List Char)
  | [] => none
  | [c] => if isDecimalDigit c then some [c] else none
  | c :: '_' :: cs => if isDecimalDigit c then (integerDigits cs).map (c :: ·) else none
  | c :: cs => if isDecimalDigit c then (integerDigits cs).map (c :: ·) else none

/-- The integer that a text denotes, if it does and has not too many digits. -/
def readInteger (cs : List Char) : Option Int :=
  let cs := dropTrailing isIntegerBlank (cs.dropWhile isIntegerBlank)
  let negative := cs.head? == some '-'
  let cs := if negative || cs.head? == some '+' then cs.drop 1 else cs
  match integerDigits cs with
  | some digits =>
    if digits.length > maxDigits then none
    else
      let n : Int := digitsValue digits
      some (if negative then -n else n)
  | none => none

end StructGen.Text
