import StructGen.Schema.Document
import StructGen.Schema.Reference
import StructGen.Schema.Version
import StructGen.Metaschema.Check

/-!
# Reading documents

A document is checked against the metaschema and its messages are read in the order of type and
version. Every place that holds a schema becomes one node. A node is entered in the graph before
the schemas below it are read, so references may lead back to it; a chain of references that leads
back to its start is an error.

* `Builder` is what reading has found so far;
* `buildNode` reads one schema and all it leads to;
* `readDocument` reads a document, `readAll` several by one builder.
-/

namespace StructGen.Schema

/-- The formats that are known without registration. -/
def standardFormats : List String :=
  ["date", "email", "idn-email", "idn-hostname", "ipv4", "ipv6", "regex", "time", "uuid"]

/-- The formats that a list of names registers; names that are no texts register nothing. -/
def customFormats (names : Json) : Except Failure (List String) :=
  match names.elements? with
  | none => .error (.misfit (.notAList names))
  | some items =>
    match items.find? Json.isCompound with
    | some v => .error (.misfit (.compoundKey v))
    | none => .ok (items.filterMap Json.str?)

/-- What reading has found so far. -/
structure Builder where
  graph : Graph := {}
  warnings : List FormatWarning := []
  notices : List Notice := []

/-- Reading: a failure keeps what was found before it. -/
abbrev Build := EStateM Failure Builder

namespace Build

/-- A result that depends on nothing that was found. -/
def lift {α : Type} : Except Failure α → Build α
  | .ok a => pure a
  | .error f => throw f

/-- Record a notice. -/
def note (n : Notice) : Build Unit := modify fun b => { b with notices := b.notices ++ [n] }

/-- Enter a node for a pointer. -/
def enter (pointer : String) : Build NodeId := do
  let b ← get
  set { b with graph := b.graph.push { pointer } }
  return b.graph.size

/-- Fill in a node. -/
def fill (id : NodeId) (n : Node) : Build Unit :=
  modify fun b => { b with graph := b.graph.set id n }

/-- Warn of a format. -/
def warn (format pointer : String) : Build Unit := do
  note (.unknownFormat format pointer)
  modify fun b => { b with warnings := b.warnings ++ [⟨format, pointer⟩] }

end Build

/-- The document that is read: its URI, its contents and the formats it may use. -/
structure Source where
  base : String
  contents : Json
  formats : List String

/-- The types of a schema: one name, or whatever lists as types. -/
def typesOf (entries : Entries) : Except Failure (List Json) :=
  match entries.lookup "type" with
  | none => .ok []
  | some (.str s) => .ok [.str s]
  | some v =>
    match v.elements? with
    | some types => .ok types
    | none => .error (.misfit (.notAList v))

/-- The properties that a schema requires. -/
def requiredOf (entries : Entries) : Except Failure (List Json) :=
  match entries.lookup "required" with
  | none => .ok []
  | some v =>
    match v.elements? with
    | some names => .ok names
    | none => .error (.misfit (.notAList v))

/-- The schemas of the properties of a schema. -/
def propertiesOf (entries : Entries) : Except Failure Entries :=
  match entries.lookup "properties" with
  | none => .ok []
  | some (.obj properties) => .ok properties
  | some v => .error (.misfit (.notAnObject v))

/-- The text under a keyword, if it is one. -/
def textOf (entries : Entries) (keyword : String) : Option String :=
  (entries.lookup keyword).bind Json.str?

/-- The schema of the items of a schema, if there is one for all of them. -/
def itemsOf (entries : Entries) : Option Json :=
  match entries.lookup "items" with
  | some (.obj items) => some (.obj items)
  | _ => none

/-- Read the schema at a pointer, unless it has been read; `fuel` bounds the depth. -/
def buildNode (source : Source) : Nat → Json → String → Build NodeId
  | 0, _, _ => throw (.misfit .endlessNesting)
  | fuel + 1, contents, pointer => do
    match (← get).graph.find? pointer with
    | some id => return id
    | none =>
      match contents with
      | .obj entries =>
        let id ← Build.enter pointer
        match textOf entries "$ref" with
        | some reference =>
          let (schema, place) ← Build.lift (resolveReference source.base source.contents reference)
          let target ← buildNode source fuel schema place
          let final := (← get).graph.target target
          if final = id then throw (.circularReference reference)
          Build.fill id { pointer, ref := some final }
          return id
        | none =>
          let types ← Build.lift (typesOf entries)
          let required ← Build.lift (requiredOf entries)
          let properties ← (← Build.lift (propertiesOf entries)).mapM fun (name, schema) => do
            let child ← buildNode source fuel schema
              (Pointer.child (pointer ++ "/properties") name)
            return (name, child)
          let items ← match itemsOf entries with
            | some schema => some <$> buildNode source fuel schema (pointer ++ "/items")
            | none => pure none
          let format := textOf entries "format"
          match format with
          | some name => if !source.formats.contains name then Build.warn name pointer
          | none => pure ()
          Build.fill id
            { pointer, types, required, properties, items, format,
              description := textOf entries "description" }
          return id
      | _ => throw (.schemaNotObject pointer)

/-- A bound on the depth of reading: every place is entered once, and a place is the target of a
reference or a message with a path below it. -/
def Source.depth (source : Source) : Nat := (source.contents.size + 1) * (source.contents.size + 1)

/-- Entries in the order of their keys. -/
def sortEntries {α : Type} (entries : List (String × α)) : List (String × α) :=
  entries.mergeSort fun a b => decide (a.1 ≤ b.1)

/-- Read one version of a message type. -/
def readMessage (id : String) (source : Source) (type version : String) (schema : Json) :
    Build Message := do
  let major ← Build.lift (majorVersion version)
  Build.lift (Metaschema.checkSchema (.invalidMessage type version) schema)
  let pointer := Pointer.ofSegments ["schemas", type, version]
  let node ← buildNode source source.depth schema pointer
  let locator := id ++ "/schemas/" ++ type ++ "/" ++ version
  Build.note (.messageRead locator)
  return { type, version, major, locator, node }

/-- Read all versions of a message type. -/
def readVersions (id : String) (source : Source) (type : String) : Json → Build (List Message)
  | .obj versions =>
    (sortEntries versions).mapM fun (version, schema) => readMessage id source type version schema
  | _ => throw (.versionsNotObject type)

/-- Read a document, starting afresh. -/
def readDocument (custom : List String) (contents : Json) : Build Document := do
  let .obj entries := contents | throw .documentNotObject
  let id ← match textOf entries "id" with
    | some id => if id.isEmpty then throw .missingId else pure id
    | none => throw .missingId
  let some (.obj schemas) := entries.lookup "schemas" | throw .missingSchemas
  Build.lift (Metaschema.checkSchema .invalidDocument contents)
  set ({} : Builder)
  let source : Source := ⟨Text.dropEnd id '#', contents, standardFormats ++ custom⟩
  let messages ← (sortEntries schemas).mapM fun (type, versions) =>
    readVersions id source type versions
  Build.note (.documentRead messages.flatten.length id)
  let b ← get
  return { id, graph := b.graph, messages := messages.flatten, warnings := b.warnings }

/-- The outcome of a step of reading, as a value. -/
def outcome {α : Type} (build : Build α) (b : Builder) : Except Failure α × Builder :=
  match build b with
  | .ok a b => (.ok a, b)
  | .error f b => (.error f, b)

/-- Read documents one after another by one builder. -/
def readAllFrom (custom : List String) (b : Builder) : List Json → List (Except Failure Document)
  | [] => []
  | contents :: rest =>
    let (result, b) := outcome (readDocument custom contents) b
    result :: readAllFrom custom b rest

/-- Read documents one after another. -/
def readAll (custom : List String) (documents : List Json) : List (Except Failure Document) :=
  readAllFrom custom {} documents

/-- Read one document, with the notices of reading. -/
def read (custom : List String) (contents : Json) : Except Failure Document × List Notice :=
  let (result, b) := outcome (readDocument custom contents) {}
  (result, b.notices)

end StructGen.Schema
