import StructGen.Text.Lines
import StructGen.Text.Letter
import StructGen.Text.Surrogates
import StructGen.Failure

/-!
# Paths and files

A run sees a tree of files. Paths are read relative to its root unless they start with a slash;
empty parts and single dots of a path do not count, and double dots are followed when the path is.

* `Path.ofText` and `Path.text` read and write paths;
* `FileTree.add` puts an entry into a tree;
* `FileTree.find` follows a path;
* `FileTree.write` puts a text into a file.
-/

namespace StructGen

/-! ### Paths -/

/-- A path: the slashes it starts with and its parts. -/
structure Path where
  root : String
  parts : List String
  deriving DecidableEq, Repr

namespace Path

/-- The start of a path: exactly two slashes count as two, any other number as one. -/
def rootOf (cs : List Char) : String :=
  match (cs.takeWhile (· == '/')).length with
  | 0 => ""
  | 2 => "//"
  | _ => "/"

/-- Read a path. -/
def ofText (text : String) : Path :=
  ⟨rootOf text.toList, (Text.split '/' text).filter fun part => part != "" && part != "."⟩

/-- The text of a path; the empty path is a dot. -/
def text (p : Path) : String :=
  if p.root.isEmpty && p.parts.isEmpty then "." else p.root ++ Text.joinWith "/" p.parts

/-- The last part of a path. -/
def name (p : Path) : String := p.parts.getLast?.getD ""

/-- The suffix of a name: what follows the last dot, with the dot, unless that dot starts or ends
the name. -/
def suffix (p : Path) : String :=
  let cs := p.name.toList
  let ending := (cs.reverse.takeWhile (· != '.')).reverse
  if ending.isEmpty || cs.length ≤ ending.length + 1 then "" else String.ofList ('.' :: ending)

/-- The text of a place, given the parts that lead there. -/
def keyOf (root : String) (parts : List String) : String := root ++ Text.joinWith "/" parts

/-- The directory above a directory. The start of the tree has directories above it, the root of
all has none. -/
def above (root : String) (here : List String) : List String :=
  if here.isEmpty || here.getLast? = some ".." then
    if root.isEmpty then here ++ [".."] else here
  else here.dropLast

/-- Where parts lead from the directory `here` when all directories on the way are there, and the
directories that a double dot leaves again. -/
def settle (root : String) : List String → List String → List String × List (List String)
  | here, [] => (here, [])
  | here, part :: parts =>
    if part = ".." then
      let (place, left) := settle root (above root here) parts
      (place, here :: left)
    else settle root (here ++ [part]) parts

end Path

/-! ### Trees of files -/

/-- What is found at a place of the tree. -/
inductive FileEntry where
  | file (octets : List UInt8)
  | directory
  deriving DecidableEq, Repr

/-- The files and directories that a run sees, by the texts of their paths. The directories on the
way to an entry are there too. -/
structure FileTree where
  entries : List (String × FileEntry) := []
  /-- The plane whose characters stand for lone surrogates, in names and in texts. -/
  spare : Text.Plane := default
  deriving DecidableEq, Repr

/-- Where a path leads. -/
inductive Spot where
  | file (key : String) (octets : List UInt8)
  | directory
  /-- Nothing is there, but the directory is. -/
  | free (key : String)
  | missing
  /-- The path goes through a file. -/
  | blocked
  /-- The path or a name in it is longer than the system allows. -/
  | tooLong
  deriving DecidableEq, Repr

namespace FileTree

/-- What stands at a place. -/
def at? (t : FileTree) (key : String) : Option FileEntry :=
  match t.entries.lookup key with
  | some e => some e
  | none =>
    if t.entries.any fun e => (key ++ "/").toList.isPrefixOf e.1.toList then some .directory
    else none

/-- The octets that a name may have. -/
def maxNameOctets : Nat := 255

/-- The octets that the text of a path may have. -/
def maxPathOctets : Nat := 4095

/-- Follow the parts of a path from the directory `here`. -/
def follow (t : FileTree) (root : String) : List String → List String → Spot
  | _, [] => .directory
  | here, part :: parts =>
    if part = ".." then t.follow root (Path.above root here) parts
    else if part.utf8ByteSize > maxNameOctets then .tooLong
    else
      let key := Path.keyOf root (here ++ [part])
      match t.at? key with
      | some .directory => t.follow root (here ++ [part]) parts
      | some (.file octets) => if parts.isEmpty then .file key octets else .blocked
      | none => if parts.isEmpty then .free key else .missing

/-- Where a path leads; nothing is at a path with a null character or one that is no name. -/
def find (t : FileTree) (p : Path) : Spot :=
  if p.text.toList.contains '\x00' || !t.spare.isName p.text then .missing
  else if p.text.utf8ByteSize > maxPathOctets then .tooLong
  else t.follow p.root [] p.parts

/-- The tree with an entry at a path, and with the directories on the way there. -/
def add (t : FileTree) (p : Path) (e : FileEntry) : FileTree :=
  let (place, left) := Path.settle p.root [] p.parts
  let directories := (left.filter (!·.isEmpty)).map fun d => (Path.keyOf p.root d, FileEntry.directory)
  { t with
    entries := putEntry (Path.keyOf p.root place) e (updateEntries t.entries directories) }

/-- Put octets into a file. -/
def put (t : FileTree) (key : String) (octets : List UInt8) : FileTree :=
  { t with entries := putEntry key (.file octets) t.entries }

/-- Write a text to the file at a path, whose directory must be there, with the files as they are
left. The file is opened first, and with that made or emptied, and then the text is encoded. -/
def write (t : FileTree) (p : Path) (text : String) : Except Failure Unit × FileTree :=
  match t.find p with
  | .file key _ | .free key =>
    match t.spare.encode? text with
    | some octets => (.ok (), t.put key octets)
    | none => (.error (.misfit .unencodable), t.put key [])
  | .directory => (.error (.unwritable (.isADirectory p.text)), t)
  | .missing => (.error (.unwritable (.missing p.text)), t)
  | .blocked => (.error (.unwritable (.notADirectory p.text)), t)
  | .tooLong => (.error (.unwritable (.nameTooLong p.text)), t)

/-- The files that are new or different in `t`, in the order of their paths. -/
def changes (old t : FileTree) : List (String × List UInt8) :=
  (t.entries.filterMap fun (key, e) =>
    match e with
    | .file octets => if old.entries.lookup key = some e then none else some (key, octets)
    | .directory => none).mergeSort fun a b => decide (a.1 ≤ b.1)

end FileTree

end StructGen
