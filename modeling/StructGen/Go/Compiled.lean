import StructGen.Go.Declaration
import StructGen.Schema.Document
import StructGen.Pointer

/-!
# Compiled documents

Compiling a document names its messages, then declares every object type that the messages lead to,
those inside others first, and last the messages themselves. All names of a run are different.

* `Workspace` is what compiling has found so far;
* `discover` declares the types that a node leads to;
* `compile` compiles a document.
-/

namespace StructGen.Go

open Schema (NodeId Graph Message Document)

/-- The declarations of a document. -/
structure Compiled where
  package : Json
  documentId : String
  base : List Declaration
  /-- The declaration of each message. -/
  messages : List Declaration
  /-- The names of the messages by their keys. -/
  messageNames : List (String × String)
  deriving DecidableEq

namespace Compiled

/-- The texts of the base declarations. -/
def baseTexts (c : Compiled) : List String := c.base.map (·.text)

/-- The texts of the message declarations, each followed by its function. -/
def messageTexts (c : Compiled) : List String :=
  c.messages.flatMap fun d => [d.text, factoryText d.name]

end Compiled

/-- What compiling has found so far. -/
structure Workspace where
  registry : Registry := {}
  base : List Declaration := []
  notices : List Notice := []

/-- Compiling: a failure keeps what was found before it. -/
abbrev Compile := EStateM Failure Workspace

namespace Compile

/-- A result that depends on nothing that was found. -/
def lift {α : Type} : Except Failure α → Compile α
  | .ok a => pure a
  | .error f => throw f

/-- Record a notice. -/
def note (n : Notice) : Compile Unit := modify fun w => { w with notices := w.notices ++ [n] }

/-- Reserve a name. -/
def claim (name : String) : Compile String := do
  let w ← get
  let (given, registry) := w.registry.claim name
  set { w with registry }
  if given != name then note (.nameInUse name given)
  return given

/-- Declare a node and record its name. -/
def declare (s : Style) (g : Graph) (name docstring : String) (id : NodeId) :
    Compile Declaration := do
  let w ← get
  let d ← lift (s.declare g w.registry name docstring id)
  set { w with registry := w.registry.register id name }
  note (.registered name (g.node id).pointer)
  return d

end Compile

/-- Declare the object types that a node leads to, those inside others first. `path` names the
place of the node, `visiting` are the objects that are being declared around it and `fuel` bounds
the depth. -/
def discoverFrom (s : Style) (g : Graph) : Nat → List NodeId → List String → NodeId → Compile Unit
  | 0, _, _, _ => throw (.misfit .endlessNesting)
  | fuel + 1, visiting, path, id => do
    let path ← match (g.node id).ref with
      | some target => Compile.lift (Pointer.definitionPath (g.node target).pointer)
      | none => pure path
    let id := g.target id
    let n := g.node id
    if !(← get).registry.contains id then
      if n.primaryType = some (.str "object") then
        if visiting.contains id then throw (.circularObject n.pointer)
        n.sortedProperties.forM fun (property, child) =>
          discoverFrom s g fuel (id :: visiting) (path ++ [property]) child
        let name ← Compile.claim (s.initialisms.pathName path)
        let d ← Compile.declare s g name (s.typeDocstring name n) id
        modify fun w => { w with base := w.base ++ [d] }
      else if n.primaryType = some (.str "array") then
        match n.items with
        | some item => discoverFrom s g fuel visiting (path ++ ["list"]) item
        | none => pure ()

/-- Declare the object types that a node leads to. On a path without end arrays follow each other
for ever, since objects on a path are different; any other path is shorter than the bound. -/
def discover (s : Style) (g : Graph) (path : List String) (id : NodeId) : Compile Unit :=
  discoverFrom s g ((g.size + 1) * (g.size + 1) + 1) [] path id

/-- Name a message, after those in `names`. -/
def nameMessage (s : Style) (d : Document) (names : List (String × String)) (m : Message) :
    Compile (List (String × String)) := do
  let name ← Compile.lift
    (s.initialisms.typeName [m.type] (some m.major) (d.isVersioned m.type))
  let given ← Compile.claim name
  return putEntry m.key given names

/-- Declare the object types that a message leads to. -/
def discoverMessage (s : Style) (g : Graph) (name : String) (m : Message) : Compile Unit := do
  let n := g.node m.node
  if !n.types.isEmpty && n.types != [.str "object"] then
    throw (.invalidMessageType n.types m.locator)
  Compile.note (.discovering m.locator name)
  n.sortedProperties.forM fun (property, child) => discover s g [name, property] child

/-- Declare a message. -/
def declareMessage (s : Style) (g : Graph) (name : String) (m : Message) : Compile Declaration :=
  Compile.declare s g name (Style.messageDocstring name m.type m.version) m.node

/-- Compile a document. -/
def compileDocument (s : Style) (d : Document) : Compile Compiled := do
  let names ← d.messages.foldlM (nameMessage s d) []
  let nameOf (m : Message) : String := (names.lookup m.key).getD ""
  d.messages.forM fun m => discoverMessage s d.graph (nameOf m) m
  let base := (← get).base
  let messages ← d.messages.mapM fun m => declareMessage s d.graph (nameOf m) m
  Compile.note (.compiled messages.length base.length)
  return { package := s.package, documentId := d.id, base, messages, messageNames := names }

/-- Compile a document, with the notices of compiling. -/
def compile (s : Style) (d : Document) : Except Failure Compiled × List Notice :=
  match compileDocument s d {} with
  | .ok c w => (.ok c, w.notices)
  | .error f w => (.error f, w.notices)

end StructGen.Go
