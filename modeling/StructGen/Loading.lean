import StructGen.Files
import StructGen.Notice
import StructGen.Uri.Basic

/-!
# Loading documents

A document is read from a file or fetched from a URL. A run sees a tree of files and one reply to
whatever it fetches.

* `Environment` is what a run sees;
* `Journal` is what loading leaves behind beside its result;
* `load` loads a document from exactly one of a file and a URL.
-/

namespace StructGen

/-- What comes back when a URL is fetched. -/
inductive Reply where
  | response (status : Nat) (body : String)
  /-- An error status of which nothing more is known. -/
  | errorStatus
  | timeout
  | failure (detail : String)
  deriving DecidableEq, Repr

/-- What a run sees. -/
structure Environment where
  files : FileTree := {}
  reply : Reply := .failure "no network"
  deriving DecidableEq, Repr

/-- A URL that was fetched, and the seconds it was given. -/
structure Request where
  url : String
  timeout : Json
  deriving DecidableEq

/-- What loading leaves behind beside its result. -/
structure Journal where
  notices : List Notice := []
  requests : List Request := []
  deriving DecidableEq

/-- Loading: a failure keeps the journal. -/
abbrev Load := EStateM Failure Journal

namespace Load

/-- Record a notice. -/
def note (n : Notice) : Load Unit := modify fun j => { j with notices := j.notices ++ [n] }

/-- Record a notice and stop. -/
def stop {α : Type} (n : Notice) (fault : LoadFault) : Load α := do
  note n
  throw (.load fault)

end Load

/-- The seconds that a URL is given unless others are set. -/
def defaultTimeout : Json := .int 30

/-- Read the text of a document. -/
def decodeDocument (spare : Text.Plane) (source : String) (text : List Char) : Load Json :=
  match Json.read spare text with
  | .ok v => pure v
  | .error (.malformed what position) =>
    let detail := Json.malformedText text what position
    Load.stop (.notJson source detail) (.notJson source detail)
  | .error .tooManyDigits => throw (.misfit .tooManyDigits)

/-- Read a document from a file. -/
def loadFile (files : FileTree) (path : Path) : Load Json := do
  match files.find path with
  | .tooLong => throw (.refused (.nameTooLong path.text))
  | .file _ octets =>
    match Text.Utf8.decode? octets with
    | .error fault => Load.stop (.fileUndecodable path.text fault) (.undecodable path.text fault)
    | .ok cs =>
      Load.note (.fileRead path.text)
      decodeDocument files.spare path.text (Text.foldNewlines cs)
  | _ => Load.stop (.fileMissing path.text) (.fileNotFound path.text)

/-- Whether a status tells of an error. -/
def isErrorStatus (status : Nat) : Bool := 400 ≤ status && status < 600

/-- Whether documents are fetched over a scheme. -/
def isFetched (scheme : String) : Bool := scheme == "http" || scheme == "https"

/-- Fetch a document. Only URLs with a host are fetched, and only over HTTP. -/
def fetch (env : Environment) (url : String) (timeout : Json) : Load Json := do
  let parts ← match Uri.split url with
    | .ok parts => pure parts
    | .error f => throw f
  if !isFetched (String.ofList parts.scheme) || parts.authority.isEmpty then
    throw (.load (.invalidUrl url))
  modify fun j => { j with requests := j.requests ++ [⟨url, timeout⟩] }
  match env.reply with
  | .response status body =>
    if isErrorStatus status then
      Load.stop (.httpFailed url (some status)) (.httpError url (some status))
    else do
      Load.note (.fetched url)
      decodeDocument env.files.spare url body.toList
  | .errorStatus => Load.stop (.httpFailed url none) (.httpError url none)
  | .timeout => Load.stop (.timedOut url timeout) (.timedOut url)
  | .failure detail => Load.stop (.fetchFailed url detail) (.unreachable url detail)

/-- Load a document from exactly one of a file and a URL, with the source as it was given. What is
no text names neither: an empty value is no URL, and any other value cannot be used. -/
def load (env : Environment) (file url : Json) (timeout : Json) : Load (String × Json) := do
  match file, url with
  | .null, .null => throw (.load .sourceCount)
  | .str path, .null => return (path, ← loadFile env.files (.ofText path))
  | file, .null => throw (.misfit (.notAPath file))
  | .null, .str url => return (url, ← fetch env url timeout)
  | .null, url =>
    throw (if url.truthy then .misfit (.notAText url) else .load (.invalidUrl url.display))
  | _, _ => throw (.load .sourceCount)

/-- The result of loading with the journal. -/
def Load.run {α : Type} (l : Load α) : Except Failure α × Journal :=
  match l {} with
  | .ok a j => (.ok a, j)
  | .error f j => (.error f, j)

end StructGen
