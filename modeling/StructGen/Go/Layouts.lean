import StructGen.Go.Declaration

/-!
# Layouts filled from values

The layouts of a struct, of the function for a message and of a file can be filled from named
values. A value that is not given is empty, and it counts as false.

* `renderLayout` fills a layout by its name.
-/

namespace StructGen.Go

/-- The text of a named value, empty when it is not given. -/
def valueText (values : Json) (key : String) : String := ((values.get? key).map Json.display).getD ""

/-- Whether a named value is given and counts as true. -/
def isGiven (values : Json) (key : String) : Bool := ((values.get? key).map Json.truthy).getD false

/-- The word for the kind of a value that cannot be listed. -/
def scalarKind : Json → String
  | .null => "NoneType"
  | .bool _ => "bool"
  | .int _ => "int"
  | _ => "float"

/-- The elements of a value for the layout `name`. -/
def listed (name : String) (value : Json) : Except Failure (List Json) :=
  match value.elements? with
  | some items => .ok items
  | none => .error (.layoutFailed name ("'" ++ scalarKind value ++ "' object is not iterable"))

/-- The field that a value describes. -/
def FieldDeclaration.ofValues (v : Json) : FieldDeclaration where
  name := valueText v "name"
  type := valueText v "type"
  key := valueText v "key"
  optional := isGiven v "optional"
  comment := if isGiven v "comment" then some (valueText v "comment") else none

/-- Fill the layout of a struct. -/
def renderStruct (name : String) (values : Json) : Except Failure String := do
  let fields ← if isGiven values "fields" then listed name ((values.get? "fields").getD .null)
    else pure []
  return Declaration.layout {
    name := valueText values "name"
    docstring := if isGiven values "docstring" then valueText values "docstring" else ""
    fields := fields.map FieldDeclaration.ofValues
    unknownType := valueText values "unknown_type" }

/-- The texts of a list of declarations, which need not be given. -/
def declarationTexts (name : String) (values : Json) (key : String) :
    Except Failure (List String) :=
  match values.get? key with
  | some v => (·.map Json.display) <$> listed name v
  | none => .ok []

/-- Fill the layout of a file. -/
def renderFile (name : String) (values : Json) : Except Failure String := do
  let base ← declarationTexts name values "base_definitions"
  let messages ← declarationTexts name values "message_definitions"
  let header := if isGiven values "generated_header" then valueText values "generated_header" else ""
  return fileLayout header (valueText values "package_name") base messages

/-- The parts of a layout's name that matter: empty ones and single dots do not. -/
def layoutParts (name : String) : List String :=
  (Text.split '/' name).filter fun part => part != "" && part != "."

/-- The layouts by their names. -/
def layouts : List (String × (String → Json → Except Failure String)) := [
  ("struct.go.j2", renderStruct),
  ("factory.go.j2", fun _ values => .ok (factoryLayout (valueText values "name"))),
  ("file.go.j2", renderFile)]

/-- The layout of a name. -/
def layout? (name : String) : Option (String → Json → Except Failure String) :=
  match layoutParts name with
  | [part] => layouts.lookup part
  | _ => none

/-- The name that stands for the layout itself, so no value can have it. -/
def reservedName : String := "self"

/-- Fill a layout by its name. -/
def renderLayout (name : String) (values : Json) : Except Failure String :=
  match layout? name with
  | none => .error (.layoutNotFound name)
  | some render =>
    if (values.get? reservedName).isSome then
      .error (.layoutFailed name
        ("Template.render() got multiple values for argument " ++ Text.quoted reservedName))
    else render name values

end StructGen.Go
