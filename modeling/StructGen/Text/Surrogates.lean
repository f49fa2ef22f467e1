import StructGen.Text.Quoted

/-!
# Lone surrogates

A text can hold half of a surrogate pair, which is no character and has no octets. It is kept as a
character of a spare plane: a plane without assigned characters, none of which the texts of a run
use for anything else. Any such plane will do, so it is a parameter of all that reads or writes
texts. A stand-in behaves as a surrogate does, except that it comes later in the order of characters.

* `Plane.standIn` is the character that stands for a lone surrogate;
* `Plane.encode?` gives the octets of a text that has no lone surrogate.
-/

namespace StructGen.Text

/-- A plane without assigned characters, counted from the fourth. -/
structure Plane where
  index : Fin 10
  deriving DecidableEq, Repr

instance : Inhabited Plane := ⟨⟨9⟩⟩

/-- Whether a unit of sixteen bits is the first half of a pair. -/
def isHighSurrogate (unit : Nat) : Bool := 0xD800 ≤ unit && unit < 0xDC00

/-- Whether a unit of sixteen bits is the second half of a pair. -/
def isLowSurrogate (unit : Nat) : Bool := 0xDC00 ≤ unit && unit < 0xE000

/-- Whether a surrogate stands for an octet in the name of a file that is no text. -/
def isRawOctet (unit : Nat) : Bool := 0xDC80 ≤ unit && unit < 0xDD00

namespace Plane

/-- The first code point of a plane. -/
def base (p : Plane) : Nat := (p.index + 4) * 0x10000

/-- The character that stands for a lone surrogate. -/
def standIn (p : Plane) (unit : Nat) : Char := Char.ofNat (p.base + unit)

/-- The lone surrogate that a character stands for. -/
def surrogate? (p : Plane) (c : Char) : Option Nat :=
  let unit := c.toNat - p.base
  if isHighSurrogate unit || isLowSurrogate unit then some unit else none

/-- The octets of a text; there are none if it has a lone surrogate. -/
def encode? (p : Plane) (text : String) : Option (List UInt8) :=
  if text.toList.any fun c => (p.surrogate? c).isSome then none else some text.toUTF8.toList

/-- Whether a text can be the name of a file. -/
def isName (p : Plane) (text : String) : Bool :=
  text.toList.all fun c => (p.surrogate? c).all isRawOctet

/-- A text with its lone surrogates written out. -/
def writtenOut (p : Plane) (text : String) : String :=
  String.ofList (text.toList.flatMap fun c =>
    match p.surrogate? c with
    | some unit => '\\' :: 'u' :: hexDigits 4 unit
    | none => [c])

end Plane

end StructGen.Text
