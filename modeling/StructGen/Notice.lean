import StructGen.Failure

/-!
# Notices

What a run tells about its progress, beside its result. Each notice has a level, and only those at
or above the level of the run are shown.
-/

namespace StructGen

/-- How important a notice is. -/
inductive Level where
  | debug
  | info
  | warning
  | error
  deriving DecidableEq, Repr

namespace Level

/-- Levels as numbers, the more important the greater. -/
def rank : Level → Nat
  | .debug => 10
  | .info => 20
  | .warning => 30
  | .error => 40

/-- The word for a level. -/
def word : Level → String
  | .debug => "DEBUG"
  | .info => "INFO"
  | .warning => "WARNING"
  | .error => "ERROR"

end Level

/-- An event of a run. -/
inductive Notice where
  | fileMissing (path : String)
  | fileUndecodable (path : String) (fault : Text.Utf8.Fault)
  | fileRead (path : String)
  | notJson (source detail : String)
  | httpFailed (url : String) (status : Option Nat)
  | timedOut (url : String) (seconds : Json)
  | fetchFailed (url detail : String)
  | fetched (url : String)
  | unknownFormat (format pointer : String)
  | messageRead (locator : String)
  | documentRead (messages : Nat) (id : String)
  | nameInUse (name given : String)
  | registered (name pointer : String)
  | discovering (locator name : String)
  | compiled (messages definitions : Nat)
  | rendering (package : Json) (declarations : Nat)
  | formatted (lines : Nat)
  deriving DecidableEq

namespace Notice

/-- The level of a notice. -/
def level : Notice → Level
  | .fileMissing _ | .fileUndecodable _ _ | .notJson _ _ | .httpFailed _ _ | .timedOut _ _
  | .fetchFailed _ _ => .error
  | .unknownFormat _ _ | .nameInUse _ _ => .warning
  | .documentRead _ _ | .compiled _ _ => .info
  | .fileRead _ | .fetched _ | .messageRead _ | .registered _ _ | .discovering _ _
  | .rendering _ _ | .formatted _ => .debug

/-- The warning about a format that is not known. -/
def unknownFormatText (format pointer : String) : String :=
  "Unknown format '" ++ format ++ "' at '#" ++ pointer ++ "' (register it as a custom format)"

/-- The wording of a notice. -/
def text : Notice → String
  | .fileMissing path => "Schema file not found: " ++ path
  | .fileUndecodable path fault => "Unable to read schema file " ++ path ++ ": " ++ fault.message
  | .fileRead path => "Read schema file " ++ path
  | .notJson source detail => "Schema " ++ source ++ " is not valid JSON: " ++ detail
  | .httpFailed url status =>
    "Fetching " ++ url ++ " failed with HTTP " ++ (status.map toString).getD "error"
  | .timedOut url seconds =>
    "Fetching " ++ url ++ " timed out after " ++ seconds.display ++ "s"
  | .fetchFailed url detail => "Fetching " ++ url ++ " failed: " ++ detail
  | .fetched url => "Fetched schema from " ++ url
  | .unknownFormat format pointer => unknownFormatText format pointer
  | .messageRead locator => "Parsed message schema " ++ locator
  | .documentRead messages id =>
    "Parsed " ++ toString messages ++ " message schemas from " ++ id
  | .nameInUse name given => "Type name " ++ name ++ " already in use, using " ++ given
  | .registered name pointer => "Registered " ++ name ++ " for '#" ++ pointer ++ "'"
  | .discovering locator name => "Discovering types of " ++ locator ++ " as " ++ name
  | .compiled messages definitions =>
    "Compiled " ++ toString messages ++ " messages with " ++ toString definitions ++
      " base definitions"
  | .rendering package declarations =>
    "Rendering package " ++ package.display ++ " with " ++ toString declarations ++ " declarations"
  | .formatted lines => "Formatted " ++ toString lines ++ " lines of Go source"

end Notice

end StructGen
