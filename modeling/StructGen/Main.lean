import StructGen.CommandLine.Run

/-!
# The command line

The program looks up the places on the disk that a run can ask for, makes the run, and then prints
and writes what the run left behind. It fetches no URLs.
-/

namespace StructGen.CommandLine

/-- What an open place on the disk is: a directory can be opened but not read. -/
def readEntry (handle : IO.FS.Handle) : IO FileEntry := do
  try
    return .file (← handle.readBinToEnd).toList
  catch _ => return .directory

/-- What stands at a place on the disk. -/
def entryOnDisk (key : String) : IO (Option FileEntry) := do
  try
    return some (← readEntry (← IO.FS.Handle.mk key .read))
  catch _ => return none

/-- The places that following a path passes. -/
def placesOf (p : Path) : List String :=
  let steps := p.parts.foldl (fun (here, places) part =>
    let here := if part = ".." then Path.above p.root here else here ++ [part]
    (here, Path.keyOf p.root here :: places)) (([] : List String), ([] : List String))
  steps.2.reverse

/-- A tree with what stands at the places that paths pass. -/
def lookUp (files : FileTree) (paths : List String) : IO FileTree := do
  let found ← (paths.flatMap fun path => placesOf (.ofText path)).filterMapM fun key => do
    return (← entryOnDisk key).map (key, ·)
  return { files with entries := updateEntries files.entries found }

/-- The paths that options name. -/
def Options.paths (o : Options) : List String :=
  [o.schemaFile, o.config, o.output].filterMap fun value => value.bind (·.text?)

/-- The tree of files that a run needs to see. The output file may be named in the settings file, so
that is looked at first. -/
def filesFor (argv : List String) : IO FileTree := do
  match parse argv with
  | .error _ => return {}
  | .ok o =>
    let files ← lookUp {} o.paths
    match o.settings files with
    | .ok s => lookUp files s.outputFile.str?.toList
    | .error _ => return files

end StructGen.CommandLine

/-- Run the program. -/
def main (argv : List String) : IO UInt32 := do
  let files ← StructGen.CommandLine.filesFor argv
  let outcome := StructGen.CommandLine.run argv { files }
  IO.print outcome.stdout
  IO.eprint outcome.stderr
  for (path, octets) in files.changes outcome.files do
    IO.FS.writeBinFile path ⟨octets.toArray⟩
  match outcome.exit with
  | .ok code => return code.toUInt32
  | .error _ => return 1
