import StructGen.Pattern.Reader
import StructGen.Json.Distinct
import StructGen.Failure

/-!
# The metaschema

A schema is an object whose keywords have values of the right shape. The keywords are checked in
the order of the metaschema, whatever their order in the schema, and the first violation is
reported. Keywords that the metaschema does not know are not looked into. A pattern that cannot
even be read stops the check where it is met; an alternative is always checked to its end.

* `Shape` is what the value of a keyword has to be, `keywordShapes` gives the shape of each;
* `Shape.findings` checks a value against a shape;
* `checkSchema` checks a schema.
-/

namespace StructGen.Metaschema

/-- What the value of a keyword has to be. -/
inductive Shape where
  | anything
  | text
  | number
  | flag
  /-- An integer that is not negative. -/
  | count
  /-- A number above zero. -/
  | positive
  /-- A regular expression. -/
  | pattern
  | schema
  /-- Some schemas, one at least. -/
  | schemas
  /-- Schemas by name. -/
  | schemaMap
  | flagOrSchema
  | schemaOrSchemas
  | schemaOrTexts
  /-- Schemas or lists of names, by name. -/
  | dependencyMap
  /-- Different texts, one at least. -/
  | texts
  /-- Different values, one at least. -/
  | values
  /-- A type or different types, one at least. -/
  | types
  deriving DecidableEq, Repr

/-- The keywords of the metaschema in its order. -/
def keywordShapes : List (String × Shape) := [
  ("id", .text), ("$schema", .text), ("title", .text), ("description", .text),
  ("default", .anything), ("multipleOf", .positive), ("maximum", .number),
  ("exclusiveMaximum", .flag), ("minimum", .number), ("exclusiveMinimum", .flag),
  ("maxLength", .count), ("minLength", .count), ("pattern", .pattern),
  ("additionalItems", .flagOrSchema), ("items", .schemaOrSchemas), ("maxItems", .count),
  ("minItems", .count), ("uniqueItems", .flag), ("maxProperties", .count),
  ("minProperties", .count), ("required", .texts), ("additionalProperties", .flagOrSchema),
  ("definitions", .schemaMap), ("properties", .schemaMap), ("patternProperties", .schemaMap),
  ("dependencies", .dependencyMap), ("enum", .values), ("type", .types), ("format", .text),
  ("allOf", .schemas), ("anyOf", .schemas), ("oneOf", .schemas), ("not", .schema)]

/-- The keywords that need another keyword, and which. -/
def dependencies : List (String × String) :=
  [("exclusiveMaximum", "maximum"), ("exclusiveMinimum", "minimum")]

/-- The names of types. -/
def simpleTypes : List String :=
  ["array", "boolean", "integer", "null", "number", "object", "string"]

/-! ### Shapes without schemas -/

/-- Whether a value is the name of a type. -/
def isSimpleType : Json → Bool
  | .str s => simpleTypes.contains s
  | _ => false

/-- Whether a value is a type or a list of different types. -/
def isTypes : Json → Bool
  | .arr items => !items.isEmpty && items.all isSimpleType && Json.allDistinct items
  | v => isSimpleType v

/-! ### Findings -/

/-- What a check comes upon. -/
inductive Finding where
  | violation (violation : Violation)
  /-- A value that stops the check. -/
  | stop (misfit : Misfit)
  deriving DecidableEq

/-- Whether a finding stops the check. -/
def Finding.misfit? : Finding → Option Misfit
  | .violation _ => none
  | .stop misfit => some misfit

/-- The finding of a value that has to fit one of several shapes, from the findings of the only
shape that it could fit. -/
def alternativeFindings (value : Json) (findings : List Finding) : List Finding :=
  match findings.findSome? Finding.misfit? with
  | some misfit => [.stop misfit]
  | none => if findings.isEmpty then [] else [.violation (.noAlternative value)]

/-- The findings of an array that has to hold different items, one at least. -/
def distinctFindings (items : List Json) : List Finding :=
  if items.isEmpty then [.violation (.empty (.arr items))]
  else if Json.allDistinct items then [] else [.violation (.repeated (.arr items))]

/-- The findings of a list of texts. -/
def textsFindings : Json → List Finding
  | .arr items =>
    (items.filterMap fun v =>
      if v matches .str _ then none else some (.violation (.wrongType v "string"))) ++
        distinctFindings items
  | v => [.violation (.wrongType v "array")]

/-- The findings of a text that has to be a regular expression. -/
def patternFindings (pattern : String) : List Finding :=
  match Pattern.check pattern with
  | .ok () => []
  | .error .malformed => [.violation (.badPattern (.str pattern))]
  | .error .countTooLarge => [.stop (.countTooLarge pattern)]
  | .error .tooManyDigits => [.stop .tooManyDigits]
  | .error .clashingOptions => [.stop (.clashingOptions pattern)]
  | .error .lookBackTooFar => [.stop (.lookBackTooFar pattern)]

/-- The findings of a value that no schema can fit, by its shape. -/
def plainFindings : Shape → Json → List Finding
  | .anything, _ => []
  | .text, v =>
    match v with
    | .str _ => []
    | v => [.violation (.wrongType v "string")]
  | .pattern, v =>
    match v with
    | .str s => patternFindings s
    | v => [.violation (.wrongType v "string")]
  | .number, v =>
    match v with
    | .int _ | .float _ => []
    | v => [.violation (.wrongType v "number")]
  | .flag, v =>
    match v with
    | .bool _ => []
    | v => [.violation (.wrongType v "boolean")]
  | .count, v =>
    match v with
    | .int n => if n < 0 then [.violation (.belowMinimum v)] else []
    | v => [.violation (.wrongType v "integer")]
  | .positive, v =>
    match v with
    | .int n => if n ≤ 0 then [.violation (.notAboveMinimum v)] else []
    | .float x => if x ≤ 0 then [.violation (.notAboveMinimum v)] else []
    | v => [.violation (.wrongType v "number")]
  | .schema, v | .schemaMap, v | .dependencyMap, v => [.violation (.wrongType v "object")]
  | .schemas, v => [.violation (.wrongType v "array")]
  | .flagOrSchema, v =>
    match v with
    | .bool _ => []
    | v => [.violation (.noAlternative v)]
  | .schemaOrSchemas, v => [.violation (.noAlternative v)]
  | .schemaOrTexts, v => alternativeFindings v (textsFindings v)
  | .texts, v => textsFindings v
  | .values, v =>
    match v with
    | .arr items => distinctFindings items
    | v => [.violation (.wrongType v "array")]
  | .types, v => if isTypes v then [] else [.violation (.noAlternative v)]

/-! ### Schemas -/

/-- The findings of a schema: those of its keywords in the order of the metaschema, then the
keywords without the ones they need. -/
def schemaFindings (entries : Entries) (findings : List (String × List Finding)) : List Finding :=
  (keywordShapes.flatMap fun (keyword, _) => (findings.lookup keyword).getD []) ++
    (dependencies.filter fun (keyword, needed) =>
      (entries.lookup keyword).isSome && (entries.lookup needed).isNone).map
        fun (keyword, needed) => .violation (.dependency needed keyword)

mutual

/-- The findings of a value that has to have a shape. -/
def Shape.findings (shape : Shape) : Json → List Finding
  | .obj entries =>
    match shape with
    | .schema => schemaFindings entries (keywordFindings entries)
    | .flagOrSchema | .schemaOrSchemas | .schemaOrTexts =>
      alternativeFindings (.obj entries) (schemaFindings entries (keywordFindings entries))
    | .schemaMap => memberFindings .schema entries
    | .dependencyMap => memberFindings .schemaOrTexts entries
    | shape => plainFindings shape (.obj entries)
  | .arr items =>
    match shape with
    | .schemas => if items.isEmpty then [.violation (.empty (.arr []))] else itemFindings items
    | .schemaOrSchemas =>
      if items.isEmpty then [.violation (.noAlternative (.arr []))]
      else alternativeFindings (.arr items) (itemFindings items)
    | shape => plainFindings shape (.arr items)
  | v => plainFindings shape v

/-- The findings of the items of an array of schemas. -/
def itemFindings : List Json → List Finding
  | [] => []
  | v :: vs => Shape.findings .schema v ++ itemFindings vs

/-- The findings of the members of an object, each having one shape. -/
def memberFindings (shape : Shape) : List (String × Json) → List Finding
  | [] => []
  | (_, v) :: es => Shape.findings shape v ++ memberFindings shape es

/-- The findings of the keywords of a schema. -/
def keywordFindings : List (String × Json) → List (String × List Finding)
  | [] => []
  | (k, v) :: es =>
    match keywordShapes.lookup k with
    | some shape => (k, Shape.findings shape v) :: keywordFindings es
    | none => keywordFindings es

end

/-- Check a schema against the metaschema; `report` tells how a violation is reported. -/
def checkSchema (report : Violation → Failure) (schema : Json) : Except Failure Unit :=
  match (Shape.findings .schema schema).head? with
  | none => .ok ()
  | some (.violation violation) => .error (report violation)
  | some (.stop misfit) => .error (.misfit misfit)

end StructGen.Metaschema
