/-!
# Widths of patterns

The width of a pattern is the least and the greatest number of characters that it can match. What
can match without end has the greatest width there is, and no width goes beyond that. The least
number stays below it, so that a width that goes beyond all counting is never a fixed one.

* `Width.andThen`, `Width.orElse` and `Width.times` follow the three ways of building patterns.
-/

namespace StructGen.Pattern

/-- The least and the greatest number of characters that a pattern matches. -/
structure Width where
  least : Nat
  greatest : Nat
  deriving DecidableEq, Repr

namespace Width

/-- The greatest width there is. -/
def bound : Nat := Nat.pow 2 32 - 1

/-- A width with both ends inside their bounds. -/
def capped (least greatest : Nat) : Width := ⟨min least (bound - 1), min greatest bound⟩

/-- The width of what matches no character. -/
def zero : Width := ⟨0, 0⟩

/-- The width of what matches one character. -/
def one : Width := ⟨1, 1⟩

/-- The width of a pattern followed by another. -/
def andThen (a b : Width) : Width := capped (a.least + b.least) (a.greatest + b.greatest)

/-- The width of a choice between two patterns. -/
def orElse (a b : Width) : Width := ⟨min a.least b.least, max a.greatest b.greatest⟩

/-- The width of a pattern that may be left out. -/
def orNothing (a : Width) : Width := ⟨0, a.greatest⟩

/-- The width of a repetition; without a greatest number of times it has no end. -/
def times (a : Width) (least : Nat) (greatest : Option Nat) : Width :=
  capped (a.least * least)
    (match greatest with
      | some n => a.greatest * n
      | none => if a.greatest = 0 then 0 else bound)

/-- Whether the number of characters is fixed, as it must be in what looks back. -/
def isFixed (a : Width) : Bool := a.least = a.greatest

/-- The number of characters from which on nothing can look back. -/
def lookBound : Nat := Nat.pow 2 31

end Width

end StructGen.Pattern
