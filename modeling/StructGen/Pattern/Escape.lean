import StructGen.Pattern.Token
import StructGen.Text.CharacterName.Lookup
import StructGen.Text.Digit

/-!
# Escapes and sets of characters

A backslash makes a letter special and a special character plain. Between brackets stands a set of
characters: single ones, ranges and whole classes.

* `escapedChar?` reads an escape that stands for one character;
* `afterSet?` finds the end of a set.
-/

namespace StructGen.Pattern

/-! ### Characters by number and by name -/

/-- The number that exactly `count` hexadecimal digits denote, and the tokens behind them. -/
def hexNumber? (count : Nat) (ts : List Token) : Option (Nat × List Token) :=
  let (digits, rest) := takePlain (fun c => (Text.hexValue? c).isSome) count ts
  if digits.length = count then
    some (digits.foldl (fun n c => 16 * n + (Text.hexValue? c).getD 0) 0, rest)
  else none

/-- Whether a character is a digit to the base eight. -/
def isOctalDigit (c : Char) : Bool := '0' ≤ c && c ≤ '7'

/-- The number that digits to the base eight denote. -/
def octalValue (digits : List Char) : Nat :=
  digits.foldl (fun n c => 8 * n + (c.toNat - '0'.toNat)) 0

/-- The greatest character that can be written to the base eight. -/
def maxOctal : Nat := 0o377

/-- The control character that a letter after a backslash stands for. -/
def control? (c : Char) : Option Nat :=
  match c with
  | 'a' => some 7
  | 't' => some 9
  | 'n' => some 10
  | 'v' => some 11
  | 'f' => some 12
  | 'r' => some 13
  | _ => none

/-- The letters that stand for a class of characters after a backslash. -/
def classLetters : List Char := ['d', 'D', 's', 'S', 'w', 'W']

/-- The letters that stand for a place between characters after a backslash. -/
def placeLetters : List Char := ['A', 'b', 'B', 'Z']

/-- The character that an escape stands for, whose first character is `c` and no digit, and the
tokens behind it. -/
def escapedChar? (c : Char) (ts : List Token) : Option (Nat × List Token) :=
  match c with
  | 'x' => hexNumber? 2 ts
  | 'u' => hexNumber? 4 ts
  | 'U' => (hexNumber? 8 ts).filter fun (n, _) => n ≤ 0x10FFFF
  | 'N' =>
    match ts with
    | .plain '\x7b' :: ts => do
      let (name, rest) ← nameUpTo '\x7d' ts
      let n ← Text.CharacterName.character? name
      return (n, rest)
    | _ => none
  | c =>
    match control? c with
    | some n => some (n, ts)
    | none => if c.isAlpha then none else some (c.toNat, ts)

/-! ### Sets -/

/-- An element of a set. -/
inductive SetItem where
  /-- One character. -/
  | point (codePoint : Nat)
  /-- A class of characters. -/
  | charClass
  deriving DecidableEq, Repr

/-- The element of a set that starts with a token, and the tokens behind it. -/
def setItem? (t : Token) (ts : List Token) : Option (SetItem × List Token) :=
  match t with
  | .plain c => some (.point c.toNat, ts)
  | .dangling => none
  | .escaped c =>
    if classLetters.contains c then some (.charClass, ts)
    else if c = 'b' then some (.point 8, ts)
    else if isOctalDigit c then
      let (more, rest) := takePlain isOctalDigit 2 ts
      let n := octalValue (c :: more)
      if n ≤ maxOctal then some (.point n, rest) else none
    else if c.isDigit then none
    else (escapedChar? c ts).map fun (n, rest) => (.point n, rest)

/-- Whether a range may go from one element to another. -/
def isRange : SetItem → SetItem → Bool
  | .point low, .point high => low ≤ high
  | _, _ => false

/-- The tokens behind a set of which `ts` is left; a bracket closes it unless it stands `first`.
The set has at most `fuel` elements. -/
def afterSetFrom? : (fuel : Nat) → (first : Bool) → (ts : List Token) → Option (List Token)
  | 0, _, _ | _, _, [] => none
  | fuel + 1, first, t :: ts =>
    if t = .plain ']' && !first then some ts
    else do
      let (low, ts) ← setItem? t ts
      match ts with
      | .plain '-' :: .plain ']' :: ts => some ts
      | .plain '-' :: t :: ts =>
        let (high, ts) ← setItem? t ts
        if isRange low high then afterSetFrom? fuel false ts else none
      | ts => afterSetFrom? fuel false ts

/-- The tokens behind a set whose opening bracket has been read. -/
def afterSet? (ts : List Token) : Option (List Token) :=
  let ts := if ts.head? = some (.plain '^') then ts.drop 1 else ts
  afterSetFrom? (ts.length + 1) true ts

end StructGen.Pattern
