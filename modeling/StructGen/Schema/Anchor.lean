import StructGen.Schema.Dialect
import StructGen.Uri.Basic

/-!
# Anchors

A schema of a document can have a name of its own, an anchor. It is known under the URI of the
nearest identifier around it.

* `anchorsFrom` are the anchors of a schema and all schemas below it;
* `anchored?` finds the schema with a name.
-/

namespace StructGen.Schema

/-- A schema with a name. -/
structure Anchor where
  /-- The URI under which the name is known. -/
  uri : String
  name : String
  schema : Json

/-- The anchors of a schema in the dialect `d` under the URI `uri`, and of the schemas below it, the
later ones first; `fuel` bounds the depth. -/
def anchorsFrom : Nat → Dialect → String → Json → Except Failure (List Anchor)
  | 0, _, _, _ => .ok []
  | fuel + 1, d, uri, schema => do
    let uri ← match ← d.identifier? schema with
      | some id => Uri.join uri id
      | none => pure uri
    let own := (← d.anchorNames schema).map fun name => { uri, name, schema : Anchor }
    let below ← (← d.subschemas schema).mapM fun child => return (← d.detect child, child)
    let anchors ← below.reverse.mapM fun (d, child) => anchorsFrom fuel d uri child
    return own ++ anchors.flatten

/-- The anchors of a document with the URI `base`. -/
def anchors (base : String) (document : Json) : Except Failure (List Anchor) :=
  anchorsFrom (document.size + 1) .draft4 base document

/-- The schema with a name in a document with the URI `base`. The last anchor of a name counts, and
one under the URI of the document wins over one under its identifier. -/
def anchored? (base : String) (document : Json) (name : String) : Except Failure (Option Json) := do
  let named := (← anchors base document).reverse.filter (·.name == name)
  let under (uri : String) : Option Json := (named.find? (·.uri == uri)).map (·.schema)
  match under base with
  | some schema => return some schema
  | none => return (← Dialect.draft4.identifier? document).bind under

end StructGen.Schema
