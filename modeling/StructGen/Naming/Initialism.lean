import StructGen.Naming.Camel
import StructGen.Text.Letter
import StructGen.Text.Lines
import StructGen.Failure

/-!
# Initialisms and names

A name that ends in the title-cased form of an initialism takes the initialism instead, so that
`UserId` becomes `UserID`. Longer initialisms are tried first, and those of one length in the
order of their characters.

* `Initialisms.ofList` orders a list and drops repetitions;
* `Initialisms.apply` changes the end of a name, once at most;
* `Initialisms.typeName` and `Initialisms.fieldName` make names of paths and of properties.
-/

namespace StructGen.Naming

/-- Initialisms in the order they are tried. -/
structure Initialisms where
  ordered : List String
  deriving DecidableEq, Repr

namespace Initialisms

/-- Whether `a` is tried no later than `b`. -/
def precedes (a b : String) : Bool :=
  b.length < a.length || (a.length == b.length && decide (a ≤ b))

/-- The initialisms of a list, longest first, without repetitions. -/
def ofList (initialisms : List String) : Initialisms :=
  ⟨(initialisms.mergeSort precedes).eraseDups⟩

/-- The initialisms in use unless others are given. -/
def go : Initialisms := ofList [
  "ACL", "API", "ASCII", "CPU", "CSS", "DNS", "EOF", "GUID", "HTML", "HTTP", "HTTPS", "ID", "IP",
  "JSON", "LHS", "QPS", "RAM", "RHS", "RPC", "SLA", "SMTP", "SQL", "SSH", "TCP", "TLS", "TTL",
  "UDP", "UI", "UID", "UUID", "URI", "URL", "UTF8", "VM", "XML", "XMPP", "XSRF", "XSS"]

/-- The characters of the form of an initialism that a name may end in. -/
def titleChars (initialism : String) : List Char :=
  Text.capitalize (Text.lowerFrom false initialism.toList)

/-- The form of an initialism that a name may end in. -/
def titleForm (initialism : String) : String := String.ofList (titleChars initialism)

@[simp] theorem titleForm_toList (initialism : String) :
    (titleForm initialism).toList = titleChars initialism := String.toList_ofList

/-- A name with `ending` at its end replaced; an empty ending stands for the whole name. -/
def replaceEnd (name ending replacement : String) : String :=
  if ending.isEmpty then replacement
  else String.ofList (name.toList.take (name.length - ending.length)) ++ replacement

/-- The initialism whose title form ends a name. -/
def ending? (is : Initialisms) (name : String) : Option String :=
  is.ordered.find? fun i => (titleChars i).isSuffixOf name.toList

/-- A name with the initialism that ends it put in upper case. -/
def apply (is : Initialisms) (name : String) : String :=
  match is.ending? name with
  | some i => replaceEnd name (titleForm i) i
  | none => name

/-- The name of the type at a path of segments. -/
def pathName (is : Initialisms) (path : List String) : String :=
  is.apply (camel (Text.joinWith "_" path))

/-- The name of a type, with the major version added where it tells two types apart. -/
def typeName (is : Initialisms) (path : List String) (major : Option Int) (versioned : Bool) :
    Except Failure String :=
  if versioned then
    match major with
    | some major => .ok (is.pathName path ++ "V" ++ toString major)
    | none => .error (.misfit .missingMajor)
  else .ok (is.pathName path)

/-- The name of the field for a property. -/
def fieldName (is : Initialisms) (property : String) : String :=
  let name := camel property
  if name = "Id" then "ID" else is.apply name

end Initialisms

end StructGen.Naming
