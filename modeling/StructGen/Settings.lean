import StructGen.Files
import StructGen.Json.Reader
import StructGen.Json.Distinct
import StructGen.Text.Identifier

/-!
# Settings

Settings have defaults, which a settings file and then overrides replace key by key. Keys that are
not known are kept together under `custom`. Values are kept as they are given, whatever their kind.

* `CustomSettings` are what is kept there;
* `Settings.ofEntries` sorts entries into settings;
* `Settings.load` merges defaults, file and overrides;
* `Settings.warnings` tells about values that are doubtful.
-/

namespace StructGen

/-- The settings that are not known: a value as it is given, or a table whose keys need not be
texts. -/
inductive CustomSettings where
  | value (value : Json)
  | table (pairs : List (Json × Json))
  deriving DecidableEq

/-- The settings of a run. -/
structure Settings where
  packageName : Json := .str "hedwig"
  outputFile : Json := .null
  customFormats : Json := .arr []
  addComments : Json := .bool true
  addGeneratedHeader : Json := .bool false
  intType : Json := .str "int"
  floatType : Json := .str "float64"
  unknownType : Json := .str "interface\x7b\x7d"
  initialisms : Json := .null
  custom : CustomSettings := .value (.obj [])
  deriving DecidableEq

namespace Settings

/-- The known settings by their keys. -/
def toEntries (s : Settings) : Entries := [
  ("package_name", s.packageName), ("output_file", s.outputFile),
  ("custom_formats", s.customFormats), ("add_comments", s.addComments),
  ("add_generated_header", s.addGeneratedHeader), ("int_type", s.intType),
  ("float_type", s.floatType), ("unknown_type", s.unknownType), ("initialisms", s.initialisms)]

/-- The settings unless others are given. -/
def default : Settings := {}

/-- The keys that are known, with the one that holds all others. -/
def keys : List String := default.toEntries.map (·.1) ++ ["custom"]

/-- The pair that an element of a list stands for. -/
def pairOf (v : Json) : Except Failure (Json × Json) :=
  match v.elements? with
  | some [key, value] =>
    if key.isCompound then .error (.misfit (.compoundKey key)) else .ok (key, value)
  | some _ => .error (.misfit (.notAPair v))
  | none => .error (.misfit (.notAList v))

/-- Put a value under a key: in place when a key like it is there, at the end otherwise. -/
def putPair (key value : Json) : List (Json × Json) → List (Json × Json)
  | [] => [(key, value)]
  | (k, v) :: ps => if k.alike key then (k, value) :: ps else (k, v) :: putPair key value ps

/-- The custom settings with unknown keys put over those in them: the entries of an object, or the
pairs of a list. -/
def extendCustom (custom : Json) (unknown : Entries) : Except Failure CustomSettings :=
  if unknown.isEmpty then .ok (.value custom)
  else if !custom.truthy then .ok (.value (.obj (updateEntries [] unknown)))
  else match custom with
    | .obj entries => .ok (.value (.obj (updateEntries entries unknown)))
    | custom =>
      match custom.elements? with
      | some items => do
        let pairs := (← items.mapM pairOf) ++ unknown.map fun (k, v) => (.str k, v)
        return .table (pairs.foldl (fun ps (k, v) => putPair k v ps) [])
      | none => .error (.misfit (.notAList custom))

/-- The entries with keys that are not known. -/
def unknown (entries : Entries) : Entries := entries.filter fun e => !keys.contains e.1

/-- The custom settings among entries. -/
def customOf (entries : Entries) : Json := (entries.lookup "custom").getD (.obj [])

/-- The known settings among entries, with custom settings. -/
def withCustom (entries : Entries) (custom : CustomSettings) : Settings :=
  let value (key : String) (other : Json) : Json := (entries.lookup key).getD other
  { packageName := value "package_name" default.packageName
    outputFile := value "output_file" default.outputFile
    customFormats := value "custom_formats" default.customFormats
    addComments := value "add_comments" default.addComments
    addGeneratedHeader := value "add_generated_header" default.addGeneratedHeader
    intType := value "int_type" default.intType
    floatType := value "float_type" default.floatType
    unknownType := value "unknown_type" default.unknownType
    initialisms := value "initialisms" default.initialisms
    custom }

/-- The settings of merged entries. -/
def ofEntries (entries : Entries) : Except Failure Settings := do
  return withCustom entries (← extendCustom (customOf entries) (unknown entries))

/-- The defaults with a file over them and overrides over both. -/
def merged (given overrides : Entries) : Entries :=
  updateEntries (updateEntries default.toEntries given) overrides

/-- Read a settings file. -/
def readFile (files : FileTree) (path : Path) : Except Failure Entries := do
  let octets ← match files.find path with
    | .file _ octets => pure (some octets)
    | .directory => pure none
    | .tooLong => throw (.refused (.nameTooLong path.text))
    | _ => throw (.settings (.notFound path.text))
  if Text.lower path.suffix != ".json" then throw (.settings (.wrongSuffix path.text))
  match octets with
  | none => throw (.settings (.unreadable path.text (.isADirectory path.text)))
  | some octets =>
    match Text.Utf8.decode? octets with
    | .error fault => throw (.misfit (.undecodable fault))
    | .ok cs =>
      let text := Text.foldNewlines cs
      match Json.read files.spare text with
      | .ok (.obj entries) => return entries
      | .ok _ => throw (.settings (.notAnObject path.text))
      | .error (.malformed what position) =>
        throw (.settings (.notJson path.text (Json.malformedText text what position)))
      | .error .tooManyDigits => throw (.misfit .tooManyDigits)

/-- The settings of a file, if one is named, and of overrides, which win. -/
def load (files : FileTree) (file : Json) (overrides : Entries) : Except Failure Settings := do
  let given ← if !file.truthy then pure []
    else match file with
      | .str path => readFile files (.ofText path)
      | v => throw (.misfit (.notAPath v))
  ofEntries (merged given overrides)

/-- Settings with overrides only. -/
def ofOverrides (overrides : Entries) : Except Failure Settings := load {} .null overrides

/-- Settings with one more custom format. -/
def addFormat (s : Settings) (format : Json) : Except Failure Settings :=
  match s.customFormats with
  | .arr formats => .ok { s with customFormats := .arr (formats ++ [format]) }
  | v => .error (.misfit (.notExtensible v))

/-- Whether a value is one of the known names; a compound value cannot be looked up. -/
def isKnown (names : List String) (v : Json) : Except Failure Bool :=
  match v with
  | .str s => .ok (names.contains s)
  | v => if v.isCompound then .error (.misfit (.compoundKey v)) else .ok false

/-- The warning about a value that is not one of the known names. -/
def unknownNameWarning (what : String) (names : List String) (v : Json) :
    Except Failure (List String) := do
  return if ← isKnown names v then [] else ["Invalid " ++ what ++ ": " ++ v.display]

/-- The package name, which must be a text here. -/
def packageText (s : Settings) : Except Failure String :=
  match s.packageName with
  | .str name => .ok name
  | v => .error (.misfit (.notAText v))

/-- What is doubtful about settings. -/
def warnings (s : Settings) : Except Failure (List String) := do
  let package ← s.packageText
  let ofPackage := if Text.isIdentifier package then [] else ["Invalid Go package name: " ++ package]
  let ofInt ← unknownNameWarning "int_type" ["int", "int8", "int16", "int32", "int64"] s.intType
  let ofFloat ← unknownNameWarning "float_type" ["float32", "float64"] s.floatType
  let ofUnknown ← unknownNameWarning "unknown_type" ["interface\x7b\x7d", "any"] s.unknownType
  return ofPackage ++ ofInt ++ ofFloat ++ ofUnknown

end Settings

end StructGen
