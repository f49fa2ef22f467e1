import StructGen.Schema.Anchor
import StructGen.Text.Integer
import StructGen.Pointer

/-!
# References inside a document

A reference names a place of the document it stands in. It is a URI whose part before the fragment
is absent or the document's own, and whose fragment is a pointer. A fragment that reads as a pointer
only when its escapes are decoded is an anchor.

* `lookUp` follows the segments of a pointer through the document;
* `schemaAt?` finds the schema that a fragment names;
* `resolveReference` finds the schema that a reference names, and its pointer.
-/

namespace StructGen.Schema

/-! ### Segments -/

/-- The item at an index, which counts from the end when it is negative. -/
def itemAt? {α : Type} (items : List α) (index : Int) : Option α :=
  if index < 0 then
    if index.natAbs ≤ items.length then items[items.length - index.natAbs]? else none
  else items[index.toNat]?

/-- The part of a value that a segment names, if there is one; scalars have no parts. -/
def part (value : Json) (segment : List Char) : Except Failure (Option Json) :=
  match value with
  | .obj entries => .ok (entries.lookup (String.ofList (Pointer.unescapeChars segment)))
  | .arr items =>
    match Text.readInteger segment with
    | some index => .ok (itemAt? items index)
    | none => .error (.misfit (.notAnIndex (String.ofList segment)))
  | .str s =>
    match Text.readInteger segment with
    | some index => .ok ((itemAt? s.toList index).map fun c => .str (String.singleton c))
    | none => .error (.misfit (.notAnIndex (String.ofList segment)))
  | v => .error (.misfit (.noParts v))

/-! ### Subschemas with identifiers of their own -/

/-- The keywords whose value is a schema. -/
def schemaKeywords : List String := ["additionalItems", "additionalProperties", "not"]

/-- The keywords whose members are schemas. -/
def containerKeywords : List String :=
  ["allOf", "anyOf", "oneOf", "definitions", "patternProperties", "properties"]

/-- Whether the segments that lead to `value` make it a subschema. -/
def isSubschema (value : Json) : List String → Bool
  | [] => true
  | segment :: rest =>
    if (segment == "items" || segment == "dependencies") && (value matches .obj _) then true
    else if schemaKeywords.contains segment then isSubschema value rest
    else if containerKeywords.contains segment then
      match rest with
      | [] => false
      | _ :: rest => isSubschema value rest
    else false

/-! ### Looking up -/

/-- A place that following a pointer has come to: what stands there, the URI of the nearest
identifier around it, and the names that lead to it from there. -/
structure Place where
  value : Json
  base : String
  trail : List String

/-- The place of a part with a name; an identifier of its own starts the trail anew. -/
def Place.enter (p : Place) (name : String) (value : Json) : Except Failure Place := do
  let trail := p.trail ++ [name]
  if isSubschema value trail then
    match ← Dialect.draft4.identifier? value with
    | none => return { p with value, trail }
    | some id => return { value, base := ← Uri.join p.base id, trail := [] }
  else return { p with value, trail }

/-- Follow segments from a place, if they lead anywhere. -/
def lookUpFrom (p : Place) : List (List Char) → Except Failure (Option Json)
  | [] => .ok (some p.value)
  | segment :: segments => do
    match ← part p.value segment with
    | none => return none
    | some value =>
      let name := match p.value with
        | .obj _ => String.ofList (Pointer.unescapeChars segment)
        | _ => ""
      lookUpFrom (← p.enter name value) segments

/-- The value that the segments of a pointer lead to. -/
def lookUp (base : String) (document : Json) (segments : List (List Char)) :
    Except Failure (Option Json) :=
  lookUpFrom { value := document, base, trail := [] } segments

/-- The schema that a fragment names: the whole document, the place that a pointer leads to, or the
schema with that anchor. -/
def schemaAt? (base : String) (document : Json) : List Char → Except Failure (Option Json)
  | [] => .ok (some document)
  | '/' :: pointer => lookUp base document ((Uri.percentDecode pointer).splitOn '/')
  | name => anchored? base document (String.ofList name)

/-- The schema that a reference names in a document with the URI `base`, and its pointer. -/
def resolveReference (base : String) (document : Json) (reference : String) :
    Except Failure (Json × String) := do
  let unsupported := Failure.unsupportedReference reference
  let (url, fragment) ← Uri.defragment reference
  if !url.isEmpty && Text.dropEnd url '#' != base then throw unsupported
  let pointer := Uri.percentDecode fragment
  if !pointer.isEmpty && pointer.head? != some '/' then throw unsupported
  match ← schemaAt? base document fragment with
  | some schema => return (schema, String.ofList pointer)
  | none => throw unsupported

end StructGen.Schema
