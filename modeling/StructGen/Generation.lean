import StructGen.Go.Compiled
import StructGen.Schema.Builder
import StructGen.Source.Layout
import StructGen.Settings
import StructGen.Loading

/-!
# Generating models

A document is read, compiled, laid out and formatted. The first failure ends the run, and the
notices up to it are kept.

* `Settings.style` is the style that settings ask for;
* `generate` makes the models of a document;
* `generateModels` loads a document, makes its models and writes them.
-/

namespace StructGen

namespace Settings

/-- The initialisms that settings ask for; without any, those of Go are taken. -/
def readInitialisms (v : Json) : Except Failure Naming.Initialisms :=
  if v = .null then .ok .go
  else if !v.truthy then .ok (.ofList [])
  else match v.elements? with
    | none => .error (.misfit (.notAList v))
    | some items =>
      match items.find? Json.isCompound with
      | some item => .error (.misfit (.compoundKey item))
      | none =>
        match items.find? fun item => item.str?.isNone with
        | some item => .error (.misfit (.unmeasurable item))
        | none => .ok (.ofList (items.filterMap Json.str?))

/-- The style that settings ask for. -/
def style (s : Settings) : Except Failure Go.Style := do
  return {
    initialisms := ← readInitialisms s.initialisms
    types := ⟨s.intType, s.floatType, s.unknownType⟩
    comments := s.addComments.truthy
    header := s.addGeneratedHeader.truthy
    package := s.packageName }

end Settings

/-- What is told about generated models. -/
structure Metadata where
  package : Json
  documentId : String
  messageCount : Nat
  definitionCount : Nat
  messageTypes : List String
  deriving DecidableEq

/-- The metadata by their keys. -/
def Metadata.entries (m : Metadata) : Entries := [
  ("language", .str "go"), ("file_extension", .str ".go"), ("package_name", m.package),
  ("document_id", .str m.documentId), ("message_count", .int m.messageCount),
  ("definition_count", .int m.definitionCount),
  ("message_types", .arr (m.messageTypes.map Json.str))]

/-- Generated models. -/
structure Generated where
  code : String
  warnings : List String
  metadata : Metadata
  deriving DecidableEq

/-- A result with the notices that led to it. -/
abbrev Noted (α : Type) := Except Failure α × List Notice

/-- Go on after a result, with the notices of both parts. -/
def Noted.andThen {α β : Type} (a : Noted α) (f : α → Noted β) : Noted β :=
  match a with
  | (.ok x, notices) => let (b, more) := f x; (b, notices ++ more)
  | (.error e, notices) => (.error e, notices)

/-- A result without notices. -/
def Noted.silent {α : Type} (a : Except Failure α) : Noted α := (a, [])

/-- Format a source. -/
def formatNoted (source : String) : Noted String :=
  match Source.readItems source with
  | .ok items => (.ok (Source.sourceText items), [.formatted (Source.sourceLines items).length])
  | .error f => (.error f, [])

/-- Lay out and format what was compiled. -/
def renderCompiled (s : Go.Style) (c : Go.Compiled) : Noted String :=
  let base := c.baseTexts
  let messages := c.messageTexts
  Noted.andThen (.ok (), [.rendering c.package (base.length + messages.length)]) fun _ =>
    formatNoted (s.fileText base messages)

/-- The models of a document that has been read. -/
def generateDocument (s : Go.Style) (d : Schema.Document) : Noted Generated :=
  Noted.andThen (Go.compile s d) fun c =>
  Noted.andThen (renderCompiled s c) fun code =>
  Noted.silent (.ok {
    code
    warnings := d.warnings.map (·.text)
    metadata := {
      package := c.package
      documentId := c.documentId
      messageCount := c.messageNames.length
      definitionCount := c.base.length
      messageTypes := d.messageTypes } })

/-- The models of a document. -/
def generate (settings : Settings) (contents : Json) : Noted Generated :=
  Noted.andThen (Noted.silent (Schema.customFormats settings.customFormats)) fun custom =>
  Noted.andThen (Schema.read custom contents) fun d =>
  Noted.andThen (Noted.silent settings.style) fun style =>
  generateDocument style d

/-- The compiled declarations of a document. -/
def compileContents (settings : Settings) (contents : Json) : Except Failure Go.Compiled := do
  let custom ← Schema.customFormats settings.customFormats
  let d ← (Schema.read custom contents).1
  let style ← settings.style
  (Go.compile style d).1

/-- The path that a value names, if it names one. -/
def outputPath? (spare : Text.Plane) (v : Json) : Except Failure (Option Path) :=
  if !v.truthy then .ok none
  else match v with
    | .str text =>
      if !spare.isName text then .error (.misfit .unencodable)
      else if text.toList.contains '\x00' then .error (.misfit (.unusablePath text))
      else .ok (some (.ofText text))
    | v => .error (.misfit (.notAPath v))

/-- Write models to the path that a value names, if it names one, with the files as they are left. -/
def writeOutput (files : FileTree) (output : Json) (code : String) :
    Except Failure Unit × FileTree :=
  match outputPath? files.spare output with
  | .error f => (.error f, files)
  | .ok none => (.ok (), files)
  | .ok (some path) => files.write path code

/-- Load a document, make its models and write them, with the files as they are left. -/
def generateModels (env : Environment) (file url : Json) (settings : Settings) :
    Except Failure String × FileTree :=
  let generated : Except Failure Generated := do
    let (_, contents) ← (load env file url defaultTimeout).run.1
    (generate settings contents).1
  match generated with
  | .error f => (.error f, env.files)
  | .ok g =>
    let (written, files) := writeOutput env.files settings.outputFile g.code
    (written.map fun _ => g.code, files)

/-- The settings of a few options: the package, the output file and the custom formats. -/
def Settings.ofOptions (package output formats : Json) : Except Failure Settings :=
  match formats.elements? with
  | some items => .ok {
      packageName := package
      outputFile := if output.truthy then .str output.display else .null
      customFormats := .arr items }
  | none => .error (.misfit (.notAList formats))

end StructGen
