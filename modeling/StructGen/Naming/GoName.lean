import StructGen.Text.Letter

/-!
# Go identifiers and package names

* `isGoIdentifier` accepts ASCII identifiers that are not reserved;
* `packageNameFaults` lists what is wrong with a package name.
-/

namespace StructGen.Naming

/-- The reserved words of Go. -/
def reservedWords : List String := [
  "break", "case", "chan", "const", "continue", "default", "defer", "else", "fallthrough", "for",
  "func", "go", "goto", "if", "import", "interface", "map", "package", "range", "return", "select",
  "struct", "switch", "type", "var"]

/-- Whether a character may start an identifier. -/
def isNameStart (c : Char) : Bool := c.isAlpha || c == '_'

/-- Whether a character may stand inside an identifier. -/
def isNameChar (c : Char) : Bool := c.isAlphanum || c == '_'

/-- Whether a text has the form of an identifier. -/
def isNameChars : List Char → Bool
  | [] => false
  | c :: cs => isNameStart c && cs.all isNameChar

/-- A text without one line feed at its end. -/
def dropFinalNewline (cs : List Char) : List Char :=
  if cs.getLast? = some '\n' then cs.dropLast else cs

/-- Whether a text has the form of an identifier, a line feed after it left aside. -/
def hasNameForm (name : String) : Bool := isNameChars (dropFinalNewline name.toList)

/-- Whether a name has the form of an identifier and is not reserved. -/
def isGoIdentifier (name : String) : Bool := hasNameForm name && !reservedWords.contains name

/-- What is wrong with a package name. -/
inductive PackageFault where
  | empty
  | notAnIdentifier (name : String)
  | reserved (name : String)
  | upperCase
  | underscore
  deriving DecidableEq, Repr

/-- The wording of a package fault. -/
def PackageFault.message : PackageFault → String
  | .empty => "Package name cannot be empty"
  | .notAnIdentifier name => "'" ++ name ++ "' is not a valid Go identifier"
  | .reserved name => "'" ++ name ++ "' is a Go reserved word"
  | .upperCase => "Package names should be lowercase"
  | .underscore => "Package names should not contain underscores"

/-- Everything that is wrong with a package name. -/
def packageNameFaults (name : String) : List PackageFault :=
  if name.isEmpty then [.empty]
  else
    (if hasNameForm name then [] else [PackageFault.notAnIdentifier name]) ++
    (if reservedWords.contains name then [PackageFault.reserved name] else []) ++
    (if Text.lower name == name then [] else [PackageFault.upperCase]) ++
    (if name.toList.contains '_' then [PackageFault.underscore] else [])

end StructGen.Naming
