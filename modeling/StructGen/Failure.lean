import StructGen.Json.Literal
import StructGen.Json.Reader
import StructGen.Text.Utf8

/-!
# Failures and their wording

Every way in which reading, compiling, laying out or writing can stop.

* `Violation`: a schema that breaks a rule of the metaschema;
* `SourceFault`: a line that the layout does not accept;
* `LoadFault`, `SettingsFault`, `PathFault`: documents, settings and paths that cannot be used;
* `Misfit`: a value of the wrong kind met where the schema is not checked;
* `Failure`: any of them, and the faults of references, versions and types.

`Failure.message` is the one place that words a failure; a misfit has no wording of its own.
-/

namespace StructGen

/-- A rule of the metaschema that a value breaks. -/
inductive Violation where
  | wrongType (value : Json) (expected : String)
  | noAlternative (value : Json)
  | belowMinimum (value : Json)
  | notAboveMinimum (value : Json)
  | empty (value : Json)
  | repeated (value : Json)
  | badPattern (value : Json)
  | dependency (needed keyword : String)
  deriving DecidableEq

/-- The wording of a violation. -/
def Violation.message : Violation → String
  | .wrongType v t => v.literal ++ " is not of type " ++ Text.quoted t
  | .noAlternative v => v.literal ++ " is not valid under any of the given schemas"
  | .belowMinimum v => v.literal ++ " is less than the minimum of 0"
  | .notAboveMinimum v => v.literal ++ " is less than or equal to the minimum of 0"
  | .empty v => v.literal ++ " should be non-empty"
  | .repeated v => v.literal ++ " has non-unique elements"
  | .badPattern v => v.literal ++ " is not a 'regex'"
  | .dependency needed keyword =>
    Text.quoted needed ++ " is a dependency of " ++ Text.quoted keyword

/-- What is wrong with a line of source. -/
inductive SourceFault where
  | unterminatedComment
  | duplicatePackage
  | expectedPackage
  | unbalancedBraces
  | unterminatedStruct
  | unexpectedStatement (line : String)
  | malformedField (line : String)
  | malformedTag (tag : String)
  | invalidIdentifier (name : String)
  | invalidType (expression : String)
  deriving DecidableEq, Repr

/-- The wording of a fault of a line. -/
def SourceFault.text : SourceFault → String
  | .unterminatedComment => "unterminated block comment"
  | .duplicatePackage => "duplicate package clause"
  | .expectedPackage => "expected package clause"
  | .unbalancedBraces => "unbalanced braces"
  | .unterminatedStruct => "unterminated struct"
  | .unexpectedStatement line => "unexpected statement: " ++ line
  | .malformedField line => "malformed struct field: " ++ line
  | .malformedTag tag => "malformed struct tag: " ++ tag
  | .invalidIdentifier name => "invalid identifier: " ++ name
  | .invalidType expression => "invalid type: " ++ expression

/-- Why the system refuses a path. -/
inductive PathFault where
  | missing (path : String)
  | notADirectory (path : String)
  | isADirectory (path : String)
  | nameTooLong (path : String)
  deriving DecidableEq, Repr

/-- The wording of a refused path. -/
def PathFault.text : PathFault → String
  | .missing path => "[Errno 2] No such file or directory: " ++ Text.quoted path
  | .notADirectory path => "[Errno 20] Not a directory: " ++ Text.quoted path
  | .isADirectory path => "[Errno 21] Is a directory: " ++ Text.quoted path
  | .nameTooLong path => "[Errno 36] File name too long: " ++ Text.quoted path

/-- Why a schema document cannot be loaded. -/
inductive LoadFault where
  /-- Not exactly one of a file and a URL is named. -/
  | sourceCount
  | fileNotFound (path : String)
  | undecodable (path : String) (fault : Text.Utf8.Fault)
  /-- The text is not JSON; `detail` says what is wrong and where. -/
  | notJson (source : String) (detail : String)
  | invalidUrl (url : String)
  /-- The server answers with an error status, if it answers at all. -/
  | httpError (url : String) (status : Option Nat)
  | timedOut (url : String)
  | unreachable (url : String) (detail : String)
  deriving DecidableEq, Repr

/-- The wording of a loading fault. -/
def LoadFault.message : LoadFault → String
  | .sourceCount => "exactly one of a schema file or a schema URL is required"
  | .fileNotFound path => "can't read schema: file not found: " ++ path
  | .undecodable path fault => "can't read schema: " ++ path ++ ": " ++ fault.message
  | .notJson source detail => "can't read schema as JSON: " ++ source ++ ": " ++ detail
  | .invalidUrl url => "can't read schema: invalid URL: " ++ url
  | .httpError url status =>
    "can't read schema: HTTP " ++ (status.map toString).getD "error" ++ " from " ++ url
  | .timedOut url => "can't read schema: timed out fetching " ++ url
  | .unreachable url detail => "can't read schema: unable to fetch " ++ url ++ ": " ++ detail

/-- Why a settings file cannot be used. -/
inductive SettingsFault where
  | notFound (path : String)
  | wrongSuffix (path : String)
  | notJson (path : String) (detail : String)
  | unreadable (path : String) (fault : PathFault)
  | notAnObject (path : String)
  deriving DecidableEq, Repr

/-- The wording of a settings fault. -/
def SettingsFault.message : SettingsFault → String
  | .notFound path => "Configuration file not found: " ++ path
  | .wrongSuffix path => "Configuration file must be JSON: " ++ path
  | .notJson path detail => "Invalid JSON in configuration file " ++ path ++ ": " ++ detail
  | .unreadable path fault => "Failed to load configuration file " ++ path ++ ": " ++ fault.text
  | .notAnObject path => "Configuration file must contain a JSON object: " ++ path

/-- A value of the wrong kind where a value is used as it is given. -/
inductive Misfit where
  /-- A list of things is needed. -/
  | notAList (value : Json)
  /-- A list that can be added to is needed. -/
  | notExtensible (value : Json)
  /-- An object is needed. -/
  | notAnObject (value : Json)
  /-- A text is needed. -/
  | notAText (value : Json)
  /-- A text or a number is needed to look something up. -/
  | compoundKey (value : Json)
  /-- An item to be measured is no text. -/
  | unmeasurable (value : Json)
  /-- A value without parts is looked into. -/
  | noParts (value : Json)
  /-- A value is not a pair. -/
  | notAPair (value : Json)
  /-- A path is needed. -/
  | notAPath (value : Json)
  /-- A path holds a null character. -/
  | unusablePath (path : String)
  /-- A segment of a pointer is no index. -/
  | notAnIndex (segment : String)
  | malformedUri (uri : String)
  | tooManyDigits
  /-- A pattern repeats something more often than can be counted. -/
  | countTooLarge (pattern : String)
  /-- The options of a pattern contradict each other. -/
  | clashingOptions (pattern : String)
  /-- A pattern looks back over too many characters. -/
  | lookBackTooFar (pattern : String)
  /-- A level is needed. -/
  | notALevel (value : Json)
  /-- A text names no level. -/
  | unknownLevel (name : String)
  /-- A versioned name is asked for without a version. -/
  | missingMajor
  | undecodable (fault : Text.Utf8.Fault)
  /-- A text with a lone surrogate is to be written. -/
  | unencodable
  /-- Arrays lead back to themselves without end. -/
  | endlessNesting
  deriving DecidableEq

/-- Every way a run can stop. -/
inductive Failure where
  | documentNotObject
  | missingId
  | missingSchemas
  | invalidDocument (violation : Violation)
  | versionsNotObject (type : String)
  | invalidMessage (type version : String) (violation : Violation)
  | schemaNotObject (pointer : String)
  | badVersion (version : String)
  | unsupportedReference (reference : String)
  | circularReference (reference : String)
  | ambiguousType (pointer : String) (types : List Json)
  | nullType (pointer : String) (types : List Json)
  | unknownPrimitive (tag : Json)
  | invalidMessageType (types : List Json) (locator : String)
  | undeclaredObject (pointer : String)
  | circularObject (pointer : String)
  | source (line : Nat) (fault : SourceFault)
  | missingPackage
  | layoutNotFound (name : String)
  | layoutFailed (name : String) (detail : String)
  | load (fault : LoadFault)
  | unwritable (fault : PathFault)
  /-- The system refuses to look at the path of a file that is to be read. -/
  | refused (fault : PathFault)
  | settings (fault : SettingsFault)
  | misfit (misfit : Misfit)
  deriving DecidableEq

namespace Failure

/-- The wording of a failure. -/
def message : Failure → String
  | .documentNotObject => "can't read schema: document must be a JSON object"
  | .missingId => "can't read schema: missing document id"
  | .missingSchemas => "can't read schema: missing 'schemas' object"
  | .invalidDocument v => "can't read schema: " ++ v.message
  | .versionsNotObject type => "can't read schema: versions of '" ++ type ++ "' must be an object"
  | .invalidMessage type version v =>
    "failed to read schema " ++ type ++ " v" ++ version ++ ": " ++ v.message
  | .schemaNotObject pointer => "can't read schema: schema at '#" ++ pointer ++ "' must be an object"
  | .badVersion version => "failed to read schema: bad version: '" ++ version ++ "'"
  | .unsupportedReference ref => "can't handle schema reference: " ++ ref
  | .circularReference ref => "can't handle schema reference: circular reference " ++ ref
  | .ambiguousType pointer types | .nullType pointer types =>
    "unable to determine type for schema '#" ++ pointer ++ "': " ++ (Json.arr types).literal
  | .unknownPrimitive tag => "unknown primitive type: " ++ tag.display
  | .invalidMessageType types locator =>
    "invalid msg schema with type: " ++ (Json.arr types).literal ++ " (" ++ locator ++ ")"
  | .undeclaredObject pointer =>
    "unable to determine type for schema '#" ++ pointer ++ "': object type is not declared"
  | .circularObject pointer => "circular reference to '#" ++ pointer ++ "' can't be declared"
  | .source line fault => "unable to format: line " ++ toString line ++ ": " ++ fault.text
  | .missingPackage => "unable to format: missing package clause"
  | .layoutNotFound name => "Template not found: " ++ name
  | .layoutFailed name detail => "Failed to render template " ++ name ++ ": " ++ detail
  | .load fault => fault.message
  | .unwritable fault => "unable to write to output path: " ++ fault.text
  | .refused fault => fault.text
  | .settings fault => fault.message
  | .misfit .missingMajor => "major_version is required to disambiguate names"
  | .misfit _ => ""

/-- Whether a failure is one of generating models; a misfit or the system stops the run at once. -/
def isReported : Failure → Bool
  | .misfit _ | .refused _ => false
  | _ => true

end Failure

end StructGen
