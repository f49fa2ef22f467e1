import StructGen.Naming.GoName
import StructGen.Text.Blank
import StructGen.Failure

/-!
# Items of a Go source

The generated sources use a small part of Go: one package clause, line comments and one-line block
comments, structs with one field a line, type names for other types and one-line functions. A
source is read line by line into items, and anything else is a fault of its line.

* `Item` and `BodyLine` are what a source and a struct body consist of;
* `readItems` reads a source.
-/

namespace StructGen.Source

/-- A field of a struct; the tag is empty when there is none. -/
structure Field where
  name : String
  type : String
  tag : String
  deriving DecidableEq, Repr

/-- A line of a struct body. -/
inductive BodyLine where
  | blank
  | comment (text : String)
  | field (field : Field)
  deriving DecidableEq, Repr

/-- A part of a source. -/
inductive Item where
  | blank
  | comment (text : String)
  | package (name : String)
  | struct (name : String) (body : List BodyLine)
  | alias (name : String) (type : String)
  | function (text : String)
  deriving DecidableEq, Repr

/-! ### Names and types -/

/-- The name of a type, of a type of another package, or the empty interface. -/
def isTypeName (cs : List Char) : Bool :=
  Naming.isNameChars cs ||
    (match cs.splitOn '.' with
      | [package, name] => Naming.isNameChars package && Naming.isNameChars name
      | _ => false) ||
    cs == "interface\x7b\x7d".toList

/-- A type name behind any number of pointer, slice and map marks. -/
def isTypeChars : List Char → Bool
  | '*' :: cs => isTypeChars cs
  | '[' :: ']' :: cs => isTypeChars cs
  | 'm' :: 'a' :: 'p' :: '[' :: 's' :: 't' :: 'r' :: 'i' :: 'n' :: 'g' :: ']' :: cs =>
    isTypeChars cs
  | cs => isTypeName cs

/-- A name, unless it is no identifier. -/
def checkName (line : Nat) (cs : List Char) : Except Failure String :=
  let name := String.ofList cs
  if Naming.isGoIdentifier name then .ok name else .error (.source line (.invalidIdentifier name))

/-- A type expression, unless it is malformed. -/
def checkType (line : Nat) (cs : List Char) : Except Failure String :=
  if isTypeChars cs then .ok (String.ofList cs)
  else .error (.source line (.invalidType (String.ofList cs)))

/-! ### Lines of a struct body -/

/-- The first word of a text and what follows the blanks after it. -/
def cutWord (cs : List Char) : List Char × List Char :=
  (cs.takeWhile (!Text.isBlank ·), (cs.dropWhile (!Text.isBlank ·)).dropWhile Text.isBlank)

/-- Whether a text stands between back quotes and holds no other. -/
def isBackQuoted : List Char → Bool
  | '\x60' :: cs => cs.getLast? == some '\x60' && cs.count '\x60' == 1
  | _ => false

/-- Whether a back-quoted text is a JSON tag. -/
def isJsonTag (cs : List Char) : Bool :=
  "`json:\"".toList.isPrefixOf cs && "\"`".toList.isSuffixOf cs && 9 ≤ cs.length

/-- A field, read from a line that is neither blank nor a comment. -/
def readField (n : Nat) (cs : List Char) : Except Failure Field := do
  let malformed := Failure.source n (.malformedField (String.ofList cs))
  let (name, rest) := cutWord cs
  if rest.isEmpty then throw malformed
  let (type, tag) := cutWord rest
  if !tag.isEmpty && !isBackQuoted tag then throw malformed
  let name ← checkName n name
  let type ← checkType n type
  if !tag.isEmpty && !isJsonTag tag then
    throw (.source n (.malformedTag (String.ofList tag)))
  return ⟨name, type, String.ofList tag⟩

/-- A line of a struct body, given without blanks around it. -/
def readBodyLine (n : Nat) (cs : List Char) : Except Failure BodyLine :=
  if cs.isEmpty then .ok .blank
  else if "//".toList.isPrefixOf cs then .ok (.comment (String.ofList cs))
  else BodyLine.field <$> readField n cs

/-! ### Lines outside structs -/

/-- What a line outside a struct is. -/
inductive TopLine where
  | item (item : Item)
  /-- The line opens a struct. -/
  | opens (name : String)

/-- The name of the function that a line declares. -/
def functionName? (cs : List Char) : Option (List Char) :=
  match cs with
  | 'f' :: 'u' :: 'n' :: 'c' :: c :: rest =>
    if Text.isBlank c then
      let rest := rest.dropWhile Text.isBlank
      let name := rest.takeWhile Naming.isNameChar
      let after := (rest.drop name.length).dropWhile Text.isBlank
      if Naming.isNameChars name && after.head? == some '(' then some name else none
    else none
  | _ => none

/-- A line after the package clause that is neither blank nor a comment. -/
def readDeclaration (n : Nat) (cs : List Char) : Except Failure TopLine :=
  let type := "type".toList
  let function : Except Failure TopLine :=
    match functionName? cs with
    | some name => do
      let _ ← checkName n name
      if cs.count '\x7b' != cs.count '\x7d' || cs.getLast? != some '\x7d' then
        throw (.source n .unbalancedBraces)
      return .item (.function (String.ofList cs))
    | none => .error (.source n (.unexpectedStatement (String.ofList cs)))
  match Text.words cs with
  | [key, name, third] =>
    if key == type then do
      let name ← checkName n name
      if third == "struct\x7b".toList then return .opens name
      return .item (.alias name (← checkType n third))
    else function
  | [key, name, third, brace] =>
    if key == type && third == "struct".toList && brace == "\x7b".toList then
      TopLine.opens <$> checkName n name
    else function
  | _ => function

/-- A line outside a struct, given without blanks around it; `packaged` tells whether the package
clause stands before it. -/
def readTopLine (n : Nat) (packaged : Bool) (cs : List Char) : Except Failure TopLine :=
  if cs.isEmpty then .ok (.item .blank)
  else if "//".toList.isPrefixOf cs then .ok (.item (.comment (String.ofList cs)))
  else if "/*".toList.isPrefixOf cs then
    if "*/".toList.isSuffixOf cs then .ok (.item (.comment (String.ofList cs)))
    else .error (.source n .unterminatedComment)
  else
    match Text.words cs with
    | [key, name] =>
      if key == "package".toList then
        if packaged then .error (.source n .duplicatePackage)
        else (fun name => .item (.package name)) <$> checkName n name
      else if packaged then readDeclaration n cs
      else .error (.source n .expectedPackage)
    | _ => if packaged then readDeclaration n cs else .error (.source n .expectedPackage)

/-! ### Sources -/

/-- A struct that is open: the line that opens it, its name and its body, reversed. -/
structure OpenStruct where
  line : Nat
  name : String
  body : List BodyLine

/-- The items of the lines from line `n` on, given without blanks around them. -/
def readLines (n : Nat) (packaged : Bool) (opened : Option OpenStruct) :
    List (List Char) → Except Failure (List Item)
  | [] =>
    match opened with
    | some s => .error (.source s.line .unterminatedStruct)
    | none => if packaged then .ok [] else .error .missingPackage
  | cs :: lines =>
    match opened with
    | some s =>
      if cs == "\x7d".toList then do
        let items ← readLines (n + 1) packaged none lines
        return .struct s.name s.body.reverse :: items
      else do
        let line ← readBodyLine n cs
        readLines (n + 1) packaged (some { s with body := line :: s.body }) lines
    | none => do
      match ← readTopLine n packaged cs with
      | .opens name => readLines (n + 1) packaged (some ⟨n, name, []⟩) lines
      | .item (.package name) => do
        let items ← readLines (n + 1) true none lines
        return .package name :: items
      | .item item => do
        let items ← readLines (n + 1) packaged none lines
        return item :: items

/-- The items of a source. -/
def readItems (source : String) : Except Failure (List Item) :=
  readLines 1 false none ((source.toList.splitOn '\n').map Text.stripChars)

end StructGen.Source
