import StructGen.Go.Type
import StructGen.Naming.Initialism

/-!
# Go declarations

An object schema becomes a struct with a field for each property, or a map when it has none. A
message also gets a function that makes an empty one.

* `Declaration.layout` and `factoryLayout` are the texts of declarations;
* `fileLayout` puts declarations together to a file;
* `declare` makes the declaration of a node.
-/

namespace StructGen.Go

open Schema (NodeId Node Graph)

/-! ### Texts -/

/-- Every line of a text behind a comment mark. -/
def commentLines (mark text : String) : String :=
  Text.joinWith "\n" ((Text.split '\n' text).map fun line => mark ++ " " ++ line)

/-- A text with a tab before its first line and before every other line that is not empty. -/
def indentLines (text : String) : String :=
  match Text.splitLines (text ++ "\n") with
  | [] => "\t"
  | line :: lines =>
    "\t" ++ Text.joinWith "\n" (line :: lines.map fun l => if l.isEmpty then l else "\t" ++ l)

/-- The comment of a field. -/
def commentBlock (field comment : String) : String :=
  indentLines (commentLines "//" (field ++ " - " ++ comment))

/-- A field of a struct: the property it holds, whether it may be left out, and a remark. -/
structure FieldDeclaration where
  name : String
  type : String
  key : String
  optional : Bool
  comment : Option String
  deriving DecidableEq, Repr

namespace FieldDeclaration

/-- The line that declares a field. -/
def line (f : FieldDeclaration) : String :=
  "\t" ++ f.name ++ " " ++ f.type ++ " `json:\"" ++ f.key ++
    (if f.optional then ",omitempty" else "") ++ "\"`"

/-- A field with its comment, which is set off by a blank line unless the field is the first. -/
def layout (first : Bool) (f : FieldDeclaration) : String :=
  (match f.comment with
    | some comment => (if first then "" else "\n") ++ commentBlock f.name comment ++ "\n"
    | none => "") ++
  f.line ++ "\n"

end FieldDeclaration

/-- The fields of a struct, `first` telling whether they start it. -/
def fieldsLayout : Bool → List FieldDeclaration → String
  | _, [] => ""
  | first, f :: fs => f.layout first ++ fieldsLayout false fs

/-- A type declaration: a struct, or a map to the unknown type when there are no fields. -/
structure Declaration where
  name : String
  docstring : String
  fields : List FieldDeclaration
  unknownType : String
  deriving DecidableEq, Repr

namespace Declaration

/-- The lines of a declaration, each ended by a line feed. -/
def layout (d : Declaration) : String :=
  (if d.docstring.isEmpty then "" else d.docstring ++ "\n") ++
  (if d.fields.isEmpty then "type " ++ d.name ++ " map[string]" ++ d.unknownType ++ "\n"
    else "type " ++ d.name ++ " struct \x7b\n" ++ fieldsLayout true d.fields ++ "\x7d\n")

/-- The text of a declaration. -/
def text (d : Declaration) : String := Text.dropEnd d.layout '\n'

end Declaration

/-- The name of the function that makes an empty message. -/
def factoryName (name : String) : String := "New" ++ name ++ "Data"

/-- The lines of the function that makes an empty message, each ended by a line feed. -/
def factoryLayout (name : String) : String :=
  "// " ++ factoryName name ++ " creates a new " ++ name ++ " struct\n" ++
  "// this method can be used as NewData when registering callback\n" ++
  "func " ++ factoryName name ++ "() interface\x7b\x7d \x7b return new(" ++ name ++ ") \x7d\n"

/-- The text of the function that makes an empty message. -/
def factoryText (name : String) : String := Text.dropEnd (factoryLayout name) '\n'

/-- Texts with a blank line after each. -/
def spaced (texts : List String) : String := String.join (texts.map (· ++ "\n\n"))

/-- A whole file; the header is left out when it is empty. -/
def fileLayout (header package : String) (base messages : List String) : String :=
  (if header.isEmpty then "" else header ++ "\n\n") ++
  "package " ++ package ++ "\n\n" ++
  "/**** BEGIN base definitions ****/\n\n" ++ spaced base ++
  "/**** END base definitions ****/\n\n" ++
  "/**** BEGIN schema definitions ****/\n\n" ++ spaced messages ++
  "/**** END schema definitions ****/\n"

/-- The line that marks a file as generated. -/
def generatedHeader : String := "// Code generated by hedwig-models. DO NOT EDIT."

/-! ### Declarations of nodes -/

/-- How declarations are written. -/
structure Style where
  initialisms : Naming.Initialisms
  types : TypeNames
  comments : Bool
  header : Bool
  package : Json
  deriving DecidableEq

namespace Style

/-- The description of a node, if descriptions are shown and it is not blank. -/
def shownDescription (s : Style) (n : Node) : Option String :=
  let description := Text.strip (n.description.getD "")
  if s.comments && !description.isEmpty then some description else none

/-- The comment above the type of a node. -/
def typeDocstring (s : Style) (name : String) (n : Node) : String :=
  match s.shownDescription n with
  | some description => commentLines "//" (name ++ " - " ++ description)
  | none => ""

/-- The comment above the type of a message. -/
def messageDocstring (name type version : String) : String :=
  "// " ++ name ++ " represents the data for Hedwig message " ++ type ++ " v" ++ version

/-- The field for a property of a node. -/
def field (s : Style) (g : Graph) (r : Registry) (n : Node) (property : String) (id : NodeId) :
    Except Failure FieldDeclaration := do
  let type ← resolveType s.types g r id (g.nullAllowed id)
  return {
    name := s.initialisms.fieldName property
    type := type.text
    key := property
    optional := !n.isRequired property
    comment := s.shownDescription (g.node id) }

/-- The declaration of a node, its fields in the order of the properties' names. -/
def declare (s : Style) (g : Graph) (r : Registry) (name docstring : String) (id : NodeId) :
    Except Failure Declaration := do
  let n := g.node id
  let fields ← n.sortedProperties.mapM fun (property, child) => s.field g r n property child
  return { name, docstring, fields, unknownType := s.types.unknown.display }

/-- The header of a file, empty when none is wanted. -/
def fileHeader (s : Style) : String := if s.header then generatedHeader else ""

/-- The text of a file. -/
def fileText (s : Style) (base messages : List String) : String :=
  fileLayout s.fileHeader s.package.display base messages

end Style

end StructGen.Go
