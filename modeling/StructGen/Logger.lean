import StructGen.Failure
import StructGen.Text.Letter

/-!
# Levels and names of loggers

Levels may be given by number or by name, in any case, and all loggers stand below one.

* `Logger.level` is the level that a value stands for;
* `Logger.qualifiedName` is the full name of a logger.
-/

namespace StructGen.Logger

/-- What a name stands for where levels are named. -/
inductive Meaning where
  | level (number : Nat)
  /-- The layout of a line. -/
  | layout
  /-- The ways in which layouts are written. -/
  | styles
  deriving DecidableEq, Repr

/-- The names, in upper case. -/
def meanings : List (String × Meaning) := [
  ("NOTSET", .level 0), ("DEBUG", .level 10), ("INFO", .level 20), ("WARN", .level 30),
  ("WARNING", .level 30), ("ERROR", .level 40), ("FATAL", .level 50), ("CRITICAL", .level 50),
  ("BASIC_FORMAT", .layout), ("_STYLES", .styles)]

/-- The level unless another is given. -/
def defaultLevel : Nat := 30

/-- What a name stands for, whatever its case; an unknown name means the default level. -/
def meaning (name : String) : Meaning :=
  (meanings.lookup (String.ofList (name.toList.flatMap Text.upperAscii))).getD (.level defaultLevel)

/-- The level that a value stands for: a number, a flag, or a text that names one. -/
def level (v : Json) : Except Failure Json :=
  match v with
  | .int _ | .bool _ => .ok v
  | .str name =>
    match meaning name with
    | .level number => .ok (.int number)
    | .layout => .error (.misfit (.unknownLevel name))
    | .styles => .error (.misfit (.notALevel v))
  | v => .error (.misfit (.notALevel v))

/-- The logger above all others. -/
def rootName : String := "hedwig_models"

/-- The full name of a logger, which starts with that of the root. -/
def qualifiedName (name : String) : String :=
  if name == rootName || (rootName ++ ".").toList.isPrefixOf name.toList then name
  else rootName ++ "." ++ name

end StructGen.Logger
