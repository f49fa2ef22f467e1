import StructGen.Registry
import StructGen.Failure

/-!
# Go types of schemas

Objects have the type that is declared for them, arrays are slices, and the other types are basic
types, which are pointers where null is allowed. An array that says nothing about its items is a
slice of the unknown type.

* `GoType` is a type expression;
* `resolveType` finds the type of a node.
-/

namespace StructGen.Go

open Schema (NodeId Graph)

/-- A type expression. -/
inductive GoType where
  /-- A declared type. -/
  | declared (name : String)
  /-- A basic type, spelled as the settings give it. -/
  | basic (spelling : Json)
  | pointer (pointee : GoType)
  | slice (item : GoType)
  deriving DecidableEq

namespace GoType

/-- The text of a type expression. -/
def text : GoType → String
  | .declared name => name
  | .basic spelling => spelling.display
  | .pointer pointee => "*" ++ pointee.text
  | .slice item => "[]" ++ item.text

/-- Whether a type is a pointer. -/
def isPointer : GoType → Bool
  | .pointer _ => true
  | _ => false

/-- The pointer to a type; a pointer stays as it is. -/
def asPointer : GoType → GoType
  | .pointer pointee => .pointer pointee
  | t => .pointer t

@[simp] theorem asPointer_asPointer (t : GoType) : t.asPointer.asPointer = t.asPointer := by
  cases t <;> rfl

end GoType

/-- The spellings of the types that the settings decide. -/
structure TypeNames where
  int : Json
  float : Json
  unknown : Json
  deriving DecidableEq

/-- The spelling of a basic type. -/
def TypeNames.basic? (names : TypeNames) (tag : Json) : Option Json :=
  match tag with
  | .str "integer" => some names.int
  | .str "string" => some (.str "string")
  | .str "boolean" => some (.str "bool")
  | .str "number" => some names.float
  | _ => none

/-- The type of a node; `fuel` bounds the number of arrays inside each other. -/
def resolveFrom (names : TypeNames) (g : Graph) (r : Registry) :
    Nat → NodeId → Bool → Except Failure GoType
  | 0, _, _ => .error (.misfit .endlessNesting)
  | fuel + 1, id, nullable =>
    let id := g.target id
    let n := g.node id
    match n.primaryType with
    | none => .error (.ambiguousType n.pointer n.types)
    | some tag =>
      if tag = .str "null" then .error (.nullType n.pointer n.types)
      else if tag = .str "object" then
        match r.get? id with
        | some name => .ok (.declared name)
        | none => .error (.undeclaredObject n.pointer)
      else if tag = .str "array" then
        match n.items with
        | some item => GoType.slice <$> resolveFrom names g r fuel item false
        | none => .ok (.slice (.basic names.unknown))
      else if tag.isCompound then .error (.misfit (.compoundKey tag))
      else match names.basic? tag with
        | some spelling =>
          let t := GoType.basic spelling
          .ok (if nullable then t.asPointer else t)
        | none => .error (.unknownPrimitive tag)

/-- The type of a node, `nullable` telling whether null is allowed where it stands. More arrays
inside each other than there are nodes lead back to themselves. -/
def resolveType (names : TypeNames) (g : Graph) (r : Registry) (id : NodeId) (nullable : Bool) :
    Except Failure GoType :=
  resolveFrom names g r (g.size + 1) id nullable

end StructGen.Go
