import StructGen.Text.Blank

/-!
# Camel case

A name is turned into upper camel case letter by letter. ASCII letters and digits are kept and
everything else is dropped; the first letter, and every letter right after a word separator or a
digit, is put in upper case.
-/

namespace StructGen.Naming

/-- The characters after which a new word starts. -/
def isWordSeparator (c : Char) : Bool := c == '_' || c == ' ' || c == '-' || c == '.'

/-- Camel case of a text, `cap` telling whether the next letter starts a word. -/
def camelFrom (cap : Bool) : List Char → List Char
  | [] => []
  | c :: cs =>
    if c.isUpper then c :: camelFrom false cs
    else if c.isLower then (if cap then c.toUpper else c) :: camelFrom false cs
    else if c.isDigit then c :: camelFrom true cs
    else camelFrom (isWordSeparator c) cs

@[simp] theorem camelFrom_nil (cap : Bool) : camelFrom cap [] = [] := rfl

/-- Camel case of a text, blanks around it left out. -/
def camelChars (cs : List Char) : List Char := camelFrom true (Text.stripChars cs)

/-- Upper camel case of a name. -/
def camel (name : String) : String := String.ofList (camelChars name.toList)

@[simp] theorem camel_toList (name : String) : (camel name).toList = camelChars name.toList := by
  simp [camel]

end StructGen.Naming
