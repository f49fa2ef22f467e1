import StructGen.Schema.Graph

/-!
# The registry of type names

A run keeps the name of every node that has been declared, and every name that is in use. A name
that is claimed twice gets a number behind it the second time.

* `Registry.claim` reserves a name;
* `Registry.register` records the name of a node.
-/

namespace StructGen

open Schema (NodeId)

/-- The names of a run. -/
structure Registry where
  /-- The declared nodes with their names, the last declared first. -/
  names : List (NodeId × String) := []
  /-- The names in use. -/
  used : List String := []
  deriving DecidableEq, Repr

namespace Registry

/-- The name of a node, if it has been declared. -/
def get? (r : Registry) (id : NodeId) : Option String := r.names.lookup id

/-- Whether a node has been declared. -/
def contains (r : Registry) (id : NodeId) : Bool := (r.get? id).isSome

/-- Record the name of a node. -/
def register (r : Registry) (id : NodeId) (name : String) : Registry :=
  ⟨(id, name) :: r.names, name :: r.used⟩

/-- The least number from `k` on that makes a name unused, if one of the next `fuel` does. -/
def freeNumber (used : List String) (name : String) : Nat → Nat → Nat
  | 0, k => k
  | fuel + 1, k =>
    if used.contains (name ++ toString k) then freeNumber used name fuel (k + 1) else k

/-- A name that is not in use: the name itself, or with the least number from two on. -/
def unusedName (r : Registry) (name : String) : String :=
  if r.used.contains name then name ++ toString (freeNumber r.used name r.used.length 2) else name

/-- Reserve a name. -/
def claim (r : Registry) (name : String) : String × Registry :=
  let given := r.unusedName name
  (given, { r with used := given :: r.used })

@[simp] theorem get?_empty (id : NodeId) : get? {} id = none := rfl

theorem get?_register (r : Registry) (id other : NodeId) (name : String) :
    (r.register id name).get? other = if other = id then some name else r.get? other := by
  grind [get?, register]

@[simp] theorem get?_claim (r : Registry) (name : String) (id : NodeId) :
    (r.claim name).2.get? id = r.get? id := rfl

end Registry

end StructGen
