import StructGen.Failure

/-!
# Versions of messages

A version is a major version, perhaps followed by `.*`. Its digits may be of any script, and one
line feed after it is left aside.
-/

namespace StructGen.Schema

/-- The rest of a version after its digits. -/
def isVersionRest (cs : List Char) : Bool :=
  cs == [] || cs == ['\n'] || cs == ['.', '*'] || cs == ['.', '*', '\n']

/-- The major version that a version names. -/
def majorVersion (version : String) : Except Failure Nat :=
  let digits := version.toList.takeWhile Text.isDecimalDigit
  if digits.isEmpty || !isVersionRest (version.toList.drop digits.length) then
    .error (.badVersion version)
  else if digits.length > Text.maxDigits then .error (.misfit .tooManyDigits)
  else .ok (Text.digitsValue digits)

end StructGen.Schema
