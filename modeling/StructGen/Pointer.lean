import StructGen.Text.Lines
import StructGen.Failure

/-!
# JSON pointers

A pointer names a place in a document by the segments that lead there, each behind a slash. In a
segment the tilde is written `~0` and the slash `~1`.

* `Pointer.escape` and `Pointer.unescape` write and read a segment;
* `Pointer.child` extends a pointer;
* `Pointer.definitionPath` gives the segments below `definitions`.
-/

namespace StructGen.Pointer

/-- The characters of a segment as they are written in a pointer. -/
def escapeChars : List Char → List Char
  | [] => []
  | c :: cs =>
    if c = '~' then '~' :: '0' :: escapeChars cs
    else if c = '/' then '~' :: '1' :: escapeChars cs
    else c :: escapeChars cs

/-- The characters of a segment that is written in a pointer. -/
def unescapeChars : List Char → List Char
  | [] => []
  | '~' :: '1' :: cs => '/' :: unescapeChars cs
  | '~' :: '0' :: cs => '~' :: unescapeChars cs
  | c :: cs => c :: unescapeChars cs

/-- A segment as it is written in a pointer. -/
def escape (segment : String) : String := String.ofList (escapeChars segment.toList)

/-- The segment that is written in a pointer. -/
def unescape (segment : String) : String := String.ofList (unescapeChars segment.toList)

/-- The pointer to the member `segment` of what `pointer` points to. -/
def child (pointer segment : String) : String := pointer ++ "/" ++ escape segment

/-- The pointer to a place, given the segments from the root. -/
def ofSegments (segments : List String) : String := segments.foldl child ""

/-- The start of the pointers into the shared definitions. -/
def definitionsStart : String := "/definitions/"

/-- The segments of a pointer below the shared definitions. -/
def definitionPath (pointer : String) : Except Failure (List String) :=
  if definitionsStart.toList.isPrefixOf pointer.toList then
    .ok (((pointer.toList.drop definitionsStart.length).splitOn '/').map
      fun segment => String.ofList (unescapeChars segment))
  else .error (.unsupportedReference ("#" ++ pointer))

end StructGen.Pointer
