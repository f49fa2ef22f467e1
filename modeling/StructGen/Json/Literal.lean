import StructGen.Json.Basic
import StructGen.Text.Quoted
import StructGen.Text.Lines

/-!
# Values in messages

A value is shown inside a message as a literal: texts are quoted, the constants are `None`,
`True` and `False`, lists stand in brackets and objects in braces. Where a text itself is the
message, it is shown without quotes.
-/

namespace StructGen.Json

mutual

/-- The literal of a value. -/
def literal : Json → String
  | .null => "None"
  | .bool true => "True"
  | .bool false => "False"
  | .int n => toString n
  | .float x => floatText x
  | .str s => Text.quoted s
  | .arr items => "[" ++ Text.joinWith ", " (literals items) ++ "]"
  | .obj entries => "\x7b" ++ Text.joinWith ", " (entryLiterals entries) ++ "\x7d"

/-- The literals of the items of a list. -/
def literals : List Json → List String
  | [] => []
  | v :: vs => literal v :: literals vs

/-- The literals of the entries of an object. -/
def entryLiterals : List (String × Json) → List String
  | [] => []
  | (k, v) :: es => (Text.quoted k ++ ": " ++ literal v) :: entryLiterals es

end

/-- A value as a message: a text as it stands, any other value as its literal. -/
def display : Json → String
  | .str s => s
  | v => v.literal

@[simp] theorem display_str (s : String) : display (.str s) = s := rfl

end StructGen.Json
