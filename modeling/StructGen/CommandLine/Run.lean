import StructGen.CommandLine.Options
import StructGen.CommandLine.Console
import StructGen.Generation

/-!
# Runs of the command line

A run reads its options, settles the settings, loads the document, makes the models and puts them
into a file or on the standard output. All else that it has to say goes to the console.

* `Outcome` is what a run leaves behind;
* `run` is a run, given its arguments and what it sees.
-/

namespace StructGen.CommandLine

/-! ### Fixed texts -/

/-- The line that tells how the program is used. -/
def usageLine : String :=
  "usage: hedwig-models [-h] (--schema-file FILE | --schema-url URL) [--module NAME] " ++
  "[--output-file FILE] [--custom-format FORMAT] [--config FILE] [--no-comments] " ++
  "[--generated-header] [--verbose] [--version]"

/-- The text that explains the options. -/
def helpText : String := Text.unlines [
  usageLine,
  "",
  "Generate Go models for Hedwig messages from a JSON Schema document",
  "",
  "options:",
  "  -h, --help            show this help message and exit",
  "  --schema-file FILE    Path to the JSON schema document",
  "  --schema-url URL      URL to fetch the JSON schema document from",
  "  --module NAME, --package-name NAME",
  "                        Go package name for the generated file (default: hedwig)",
  "  --output-file FILE, -o FILE",
  "                        Output file for generated code (default: stdout)",
  "  --custom-format FORMAT",
  "                        Additional custom format accepted in schemas (repeatable)",
  "  --config FILE         JSON configuration file for code generation",
  "  --verbose, -v         Increase log verbosity (-v for info and metadata, -vv for debug)",
  "  --version             show program's version number and exit",
  "",
  "output options:",
  "  --no-comments         Don't generate comments from schema descriptions",
  "  --generated-header    Start the file with a 'Code generated ... DO NOT EDIT.' comment",
  "",
  "Examples:",
  "  hedwig-models --schema-file schema.json --output-file models.go",
  "  hedwig-models --schema-file schema.json --module events --custom-format vin",
  "  hedwig-models --schema-url https://example.com/schema.json > models.go"]

/-- The text that tells the version. -/
def versionText : String := Text.unlines ["hedwig-models 0.1.0"]

/-- The text about a fault of the command line. -/
def usageText (fault : UsageFault) : String :=
  Text.unlines [usageLine, "hedwig-models: error: " ++ fault.message]

/-- The text about a failure. -/
def errorText (f : Failure) : String := printed ("✗ Error: " ++ shown f.message)

/-- The text about a doubtful setting. -/
def settingWarningText (warning : String) : String :=
  printed ("⚠️  " ++ shownBefore "[/yellow]" warning)

/-- The text about the warnings of a document. -/
def warningsText (warnings : List String) : String :=
  if warnings.isEmpty then ""
  else printed "⚠️  Warnings:" ++
    String.join (warnings.map fun w => printed ("  • " ++ shown w))

/-- The text about models that were written. -/
def savedText (source : String) (path : Path) : String :=
  printed ("✓ Generated Go models for " ++ shown source ++ " saved to " ++
    shownBefore "[/cyan]" path.text)

/-! ### Runs -/

/-- What a run leaves behind. -/
structure Outcome where
  /-- The exit code, or the misfit that broke the run off. -/
  exit : Except Misfit Nat
  stdout : String
  stderr : String
  /-- The files after the run. -/
  files : FileTree
  requests : List Request

/-- The settings that options ask for, over those of a settings file. -/
def Options.settings (o : Options) (files : FileTree) : Except Failure Settings := do
  let s ← Settings.load files ((o.config.map OptionValue.toJson).getD .null) []
  let formats ← if o.customFormats.isEmpty then pure s.customFormats
    else match s.customFormats.elements? with
      | some items => pure (Json.arr (items ++ o.customFormats.map OptionValue.toJson))
      | none => throw (.misfit (.notAList s.customFormats))
  let given (value : Option OptionValue) (other : Json) : Json :=
    match value with
    | some value => if value.toJson.truthy then value.toJson else other
    | none => other
  return { s with
    packageName := given o.package s.packageName
    outputFile := given o.output s.outputFile
    customFormats := formats
    addComments := if o.noComments then .bool false else s.addComments
    addGeneratedHeader := if o.generatedHeader then .bool true else s.addGeneratedHeader }

/-- What is doubtful about the settings of a run, the conventions for package names included. -/
def settingWarnings (s : Settings) : Except Failure (List String) := do
  let warnings ← s.warnings
  let package ← s.packageText
  return warnings ++
    if Text.isIdentifier package then (Naming.packageNameFaults package).map (·.message) else []

/-- The level from which notices are shown. -/
def Options.level (o : Options) : Level :=
  match o.verbosity with
  | 0 => .warning
  | 1 => .info
  | _ => .debug

/-- A run that fails after `stderr` was printed. Whatever path the system refuses counts as one that
cannot be written to. -/
def failed (files : FileTree) (requests : List Request) (stderr : String) (f : Failure) : Outcome :=
  match f with
  | .misfit m => { exit := .error m, stdout := "", stderr, files, requests }
  | .refused fault =>
    { exit := .ok 1, stdout := "", stderr := stderr ++ errorText (.unwritable fault), files, requests }
  | f => { exit := .ok 1, stdout := "", stderr := stderr ++ errorText f, files, requests }

/-- The source and the models that options ask for, with all notices and requests. -/
def produce (o : Options) (settings : Settings) (env : Environment) :
    Noted (String × Generated) × List Request :=
  let given (value : Option OptionValue) : Json := (value.map OptionValue.toJson).getD .null
  let (loaded, journal) := (load env (given o.schemaFile) (given o.schemaUrl) defaultTimeout).run
  (Noted.andThen (loaded, journal.notices) fun (source, contents) =>
    Noted.andThen (generate settings contents) fun generated =>
      Noted.silent (.ok (source, generated)), journal.requests)

/-- Put models where the settings say. -/
def deliver (o : Options) (settings : Settings) (files : FileTree) (requests : List Request)
    (stderr source : String) (g : Generated) : Outcome :=
  let stderr := stderr ++ warningsText g.warnings
  let table := if o.verbosity = 0 then "" else Text.unlines (metadataLines g.metadata.entries)
  match outputPath? files.spare settings.outputFile with
  | .error f => failed files requests stderr f
  | .ok none =>
    match files.spare.encode? g.code with
    | none => failed files requests stderr (.misfit .unencodable)
    | some _ =>
      { exit := .ok 0, stdout := g.code, stderr := stderr ++ table, files, requests }
  | .ok (some path) =>
    match files.write path g.code with
    | (.error f, files) => failed files requests stderr f
    | (.ok (), files) =>
      { exit := .ok 0, stdout := "", stderr := stderr ++ savedText source path ++ table, files,
        requests }

/-- A run with the options that were read. -/
def runOptions (o : Options) (env : Environment) : Outcome :=
  let settled : Except Failure (Settings × List String) := do
    let settings ← o.settings env.files
    return (settings, ← settingWarnings settings)
  match settled with
  | .error f => failed env.files [] "" f
  | .ok (settings, warnings) =>
    let ((result, notices), requests) := produce o settings env
    let stderr := String.join (warnings.map settingWarningText) ++
      noticesText o.level notices ++ "\n"
    match result with
    | .error f => failed env.files requests stderr f
    | .ok (source, g) => deliver o settings env.files requests stderr source g

/-- An outcome with the lone surrogates on the console written out. -/
def Outcome.writtenOut (r : Outcome) (spare : Text.Plane) : Outcome :=
  { r with stderr := spare.writtenOut r.stderr }

/-- A run of the command line. -/
def run (argv : List String) (env : Environment) : Outcome :=
  let quit (code : Nat) (stdout stderr : String) : Outcome :=
    { exit := .ok code, stdout, stderr, files := env.files, requests := [] }
  match parse argv with
  | .error .help => quit 0 helpText ""
  | .error .version => quit 0 versionText ""
  | .error (.usage fault) => (quit 2 "" (usageText fault)).writtenOut env.files.spare
  | .ok o => (runOptions o env).writtenOut env.files.spare

end StructGen.CommandLine
