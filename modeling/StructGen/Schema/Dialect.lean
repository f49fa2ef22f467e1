import StructGen.Failure
import StructGen.Text.Lines
import StructGen.Text.Blank

/-!
# Dialects of schemas

A schema may say in which dialect it is written, and the schemas below it are written in the same
dialect unless they say otherwise. A dialect tells which keywords hold schemas and how a schema is
named.

* `Dialect.detect` is the dialect of a schema;
* `Dialect.identifier?` is the identifier of a schema;
* `Dialect.anchorNames` are the names of a schema inside the document;
* `Dialect.subschemas` are the schemas right below a schema.
-/

namespace StructGen.Schema

/-- The dialects of schemas. -/
inductive Dialect where
  | draft3
  | draft4
  | draft6
  | draft7
  | draft2019
  | draft2020
  deriving DecidableEq, Repr

namespace Dialect

/-! ### Names of dialects -/

/-- The dialects, oldest first. -/
def all : List Dialect := [.draft3, .draft4, .draft6, .draft7, .draft2019, .draft2020]

/-- The place on the web under which a dialect is known. -/
def address (version : String) : String := "://json-schema.org/" ++ version ++ "/schema"

/-- The name by which a schema refers to a dialect. -/
def uri : Dialect → String
  | .draft3 => "http" ++ address "draft-03"
  | .draft4 => "http" ++ address "draft-04"
  | .draft6 => "http" ++ address "draft-06"
  | .draft7 => "http" ++ address "draft-07"
  | .draft2019 => "https" ++ address "draft/2019-09"
  | .draft2020 => "https" ++ address "draft/2020-12"

/-- The dialect of a schema below one that is written in the dialect `d`; an unknown dialect counts
for nothing. -/
def detect (d : Dialect) (schema : Json) : Except Failure Dialect :=
  match schema.get? "$schema" with
  | none | some .null => .ok d
  | some (.str name) => .ok ((all.find? fun d => d.uri == Text.dropEnd name '#').getD d)
  | some v => .error (.misfit (.notAText v))

/-! ### Identifiers and anchors -/

/-- The keyword of the identifier. -/
def idKeyword : Dialect → String
  | .draft3 | .draft4 => "id"
  | .draft6 | .draft7 | .draft2019 | .draft2020 => "$id"

/-- Whether a schema in which a reference stands has no identifier. -/
def isHiddenByReference : Dialect → Bool
  | .draft3 | .draft4 => true
  | .draft6 | .draft7 | .draft2019 | .draft2020 => false

/-- Whether an identifier that is only a fragment names a place inside the document. -/
def hasFragmentNames : Dialect → Bool
  | .draft3 | .draft4 | .draft6 | .draft7 => true
  | .draft2019 | .draft2020 => false

/-- The keywords that name a place inside the document. -/
def anchorKeywords : Dialect → List String
  | .draft3 | .draft4 | .draft6 | .draft7 => []
  | .draft2019 => ["$anchor"]
  | .draft2020 => ["$anchor", "$dynamicAnchor"]

/-- Whether a truth value is a schema. -/
def hasBooleans : Dialect → Bool
  | .draft3 | .draft4 => false
  | .draft6 | .draft7 | .draft2019 | .draft2020 => true

/-- Whether a reference stands in a value; values without parts cannot be looked into. -/
def holdsReference : Json → Except Failure Bool
  | .obj entries => .ok (entries.lookup "$ref").isSome
  | .arr items => .ok (items.contains (.str "$ref"))
  | .str s => .ok (Text.occursIn "$ref".toList s.toList)
  | v => .error (.misfit (.noParts v))

/-- The value of a keyword of a schema; only an object has keywords. -/
def keyword? (schema : Json) (keyword : String) : Except Failure (Option Json) :=
  match schema with
  | .obj entries => .ok (entries.lookup keyword)
  | v => .error (.misfit (.notAnObject v))

/-- The identifier of a schema, if it has one, without the mark of an empty fragment. -/
def identifier? (d : Dialect) (schema : Json) : Except Failure (Option String) := do
  if d.hasBooleans && (schema matches .bool _) then return none
  if d.isHiddenByReference then
    if ← holdsReference schema then return none
  match ← keyword? schema d.idKeyword with
  | none | some .null => return none
  | some (.str id) =>
    return if d.hasFragmentNames && id.toList.head? == some '#' then none
      else some (Text.dropEnd id '#')
  | some v => throw (.misfit (.notAText v))

/-- The name under an anchor keyword, which can be looked up only if it is a text. -/
def anchorName? (schema : Json) (keyword : String) : Except Failure (Option String) := do
  match ← keyword? schema keyword with
  | none => return none
  | some v => if v.isCompound then throw (.misfit (.compoundKey v)) else return v.str?

/-- The names of a schema inside the document. -/
def anchorNames (d : Dialect) (schema : Json) : Except Failure (List String) := do
  if d.hasBooleans && (schema matches .bool _) then return []
  if d.hasFragmentNames then
    match ← keyword? schema d.idKeyword with
    | none => return []
    | some (.str id) =>
      match id.toList with
      | '#' :: name => return [String.ofList name]
      | _ => return []
    | some v => throw (.misfit (.notAText v))
  else return (← d.anchorKeywords.mapM (anchorName? schema)).filterMap id

/-! ### Schemas below a schema -/

/-- The keywords whose value is a schema. -/
def schemaKeywords : Dialect → List String
  | .draft3 => []
  | .draft4 => ["not"]
  | .draft6 => ["additionalItems", "additionalProperties", "contains", "not", "propertyNames"]
  | .draft7 => [
    "additionalItems", "additionalProperties", "contains", "else", "if", "not", "propertyNames",
    "then"]
  | .draft2019 => [
    "additionalItems", "additionalProperties", "contains", "contentSchema", "else", "if", "not",
    "propertyNames", "then", "unevaluatedItems", "unevaluatedProperties"]
  | .draft2020 => [
    "additionalProperties", "contains", "contentSchema", "else", "if", "items", "not",
    "propertyNames", "then", "unevaluatedItems", "unevaluatedProperties"]

/-- The keywords whose value is a list of schemas. -/
def listKeywords : Dialect → List String
  | .draft3 => ["extends"]
  | .draft4 | .draft6 | .draft7 | .draft2019 => ["allOf", "anyOf", "oneOf"]
  | .draft2020 => ["allOf", "anyOf", "oneOf", "prefixItems"]

/-- The keywords whose value holds schemas by name. -/
def tableKeywords : Dialect → List String
  | .draft3 | .draft4 | .draft6 | .draft7 => ["definitions", "patternProperties", "properties"]
  | .draft2019 | .draft2020 =>
    ["$defs", "definitions", "dependentSchemas", "patternProperties", "properties"]

/-- Whether items have one schema for all or a list of schemas. -/
def hasItemLists : Dialect → Bool
  | .draft2020 => false
  | _ => true

/-- Whether dependencies may be schemas. -/
def hasDependencies : Dialect → Bool
  | .draft3 | .draft4 | .draft6 | .draft7 => true
  | .draft2019 | .draft2020 => false

/-- The keywords whose value is a schema only if it is an object. -/
def objectKeywords : Dialect → List String
  | .draft3 | .draft4 => ["additionalItems", "additionalProperties"]
  | .draft6 | .draft7 | .draft2019 | .draft2020 => []

/-- The schemas of a list. -/
def listed (v : Json) : Except Failure (List Json) :=
  match v.elements? with
  | some items => .ok items
  | none => .error (.misfit (.notAList v))

/-- The schemas of a table. -/
def tabled : Json → Except Failure (List Json)
  | .obj entries => .ok (entries.map (·.2))
  | v => .error (.misfit (.notAnObject v))

/-- The schemas of the items. -/
def itemSchemas (entries : Entries) : List Json :=
  match entries.lookup "items" with
  | none | some .null => []
  | some v => if v matches .obj _ then [v] else v.elements?.getD [v]

/-- The schemas of the dependencies; the first one decides whether they are schemas. -/
def dependencySchemas (entries : Entries) : Except Failure (List Json) := do
  match entries.lookup "dependencies" with
  | none | some .null => return []
  | some v =>
    let values ← tabled v
    return if values.head?.any (· matches .obj _) then values else []

/-- The schemas right below a schema. -/
def subschemas (d : Dialect) : Json → Except Failure (List Json)
  | .obj entries => do
    let given (keywords : List String) : List Json := keywords.filterMap fun k => entries.lookup k
    let lists ← (given d.listKeywords).mapM listed
    let tables ← (given d.tableKeywords).mapM tabled
    let dependencies ← if d.hasDependencies then dependencySchemas entries else pure []
    return given d.schemaKeywords ++ lists.flatten ++ tables.flatten ++
      (if d.hasItemLists then itemSchemas entries else []) ++ dependencies ++
      (given d.objectKeywords).filter (· matches .obj _)
  | _ => .ok []

end Dialect

end StructGen.Schema
