/-!
# Sets of characters given by ranges

Properties of characters are tables of closed ranges of code points. `CharRanges.contains`
is membership, and the ranges of a table stand in ascending order.
-/

namespace StructGen.Text

/-- A set of characters as closed ranges of code points. -/
structure CharRanges where
  /-- Least and greatest code point of each range. -/
  ranges : List (Nat × Nat)
  deriving Repr

namespace CharRanges

/-- Whether some range holds the character. -/
def contains (r : CharRanges) (c : Char) : Bool :=
  r.ranges.any fun (lo, hi) => lo ≤ c.toNat && c.toNat ≤ hi

/-- The least code point of the range that holds the character. -/
def start? (r : CharRanges) (c : Char) : Option Nat :=
  (r.ranges.find? fun (lo, hi) => lo ≤ c.toNat && c.toNat ≤ hi).map Prod.fst

@[simp] theorem contains_nil (c : Char) : contains ⟨[]⟩ c = false := rfl

@[simp] theorem contains_cons (lo hi : Nat) (r : List (Nat × Nat)) (c : Char) :
    contains ⟨(lo, hi) :: r⟩ c = ((lo ≤ c.toNat && c.toNat ≤ hi) || contains ⟨r⟩ c) := rfl

end CharRanges

end StructGen.Text
