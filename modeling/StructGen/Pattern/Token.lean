import StructGen.Text.Ranges

/-!
# Tokens of a pattern

A pattern is a regular expression. Its tokens are single characters and characters with a
backslash before them; a backslash at the very end stands before nothing.

* `tokens` cuts a pattern into its tokens;
* `textUpTo` reads the tokens before a given character as text.
-/

namespace StructGen.Pattern

/-- A token of a pattern. -/
inductive Token where
  | plain (c : Char)
  /-- A character with a backslash before it. -/
  | escaped (c : Char)
  /-- A backslash with nothing behind it. -/
  | dangling
  deriving DecidableEq, Repr

/-- The tokens of a pattern. -/
def tokens : List Char → List Token
  | [] => []
  | ['\\'] => [.dangling]
  | '\\' :: c :: cs => .escaped c :: tokens cs
  | c :: cs => .plain c :: tokens cs

/-- Why a pattern is refused. -/
inductive Fault where
  | malformed
  /-- A count of repetitions that no repetition can reach. -/
  | countTooLarge
  /-- A count that is written with too many digits. -/
  | tooManyDigits
  /-- Options that contradict each other. -/
  | clashingOptions
  /-- A look back over too many characters. -/
  | lookBackTooFar
  deriving DecidableEq, Repr

/-- The text before the first plain `stop`, and the tokens behind it. -/
def textUpTo (stop : Char) : List Token → Option (List Char × List Token)
  | [] | .dangling :: _ => none
  | .plain c :: ts =>
    if c = stop then some ([], ts)
    else (textUpTo stop ts).map fun (text, rest) => (c :: text, rest)
  | .escaped c :: ts =>
    (textUpTo stop ts).map fun (text, rest) => ('\\' :: c :: text, rest)

/-- A name before the first plain `stop`, and the tokens behind it; a name is not empty. -/
def nameUpTo (stop : Char) (ts : List Token) : Option (List Char × List Token) :=
  (textUpTo stop ts).filter fun (name, _) => !name.isEmpty

/-- The plain characters at the start that satisfy `p`, at most `most`, and the tokens behind
them. -/
def takePlain (p : Char → Bool) : (most : Nat) → List Token → List Char × List Token
  | most + 1, .plain c :: ts =>
    if p c then
      let (cs, rest) := takePlain p most ts
      (c :: cs, rest)
    else ([], .plain c :: ts)
  | _, ts => ([], ts)

end StructGen.Pattern
