import StructGen.Uri.Host
import StructGen.Text.Blank
import StructGen.Failure

/-!
# URIs

A URI is cut into scheme, authority, path, query and fragment, and put together again. Controls and
blanks before it and line breaks and tabs inside it do not count.

* `Uri.split` cuts a text;
* `Uri.unsplit` puts the parts together, in lower case the scheme and without empty parts;
* `Uri.defragment` cuts the fragment off a reference;
* `Uri.join` finds what a reference means beside a base;
* `Uri.percentDecode` reads percent escapes as UTF-8.
-/

namespace StructGen

/-- The parts of a URI. -/
structure Uri where
  scheme : List Char
  authority : List Char
  path : List Char
  query : List Char
  fragment : List Char
  deriving DecidableEq, Repr

namespace Uri

/-- The schemes that are followed by an authority. -/
def authoritySchemes : List String := [
  "", "ftp", "http", "gopher", "nntp", "telnet", "imap", "wais", "file", "mms", "https", "shttp",
  "snews", "prospero", "rtsp", "rtspu", "rsync", "svn", "svn+ssh", "sftp", "nfs", "git", "git+ssh",
  "ws", "wss"]

/-- The schemes whose paths may end in parameters. -/
def parameterSchemes : List String := [
  "", "ftp", "hdl", "prospero", "http", "imap", "https", "shttp", "rtsp", "rtspu", "sip", "sips",
  "mms", "sftp", "tel"]

/-- The schemes whose references may leave out what they share with the base. -/
def relativeSchemes : List String := [
  "", "ftp", "http", "gopher", "nntp", "imap", "wais", "file", "https", "shttp", "mms", "prospero",
  "rtsp", "rtspu", "sftp", "svn", "svn+ssh", "ws", "wss"]

/-- The characters beyond ASCII that stand for a delimiter of a URI. -/
def delimiterLookalikes : Text.CharRanges := ⟨[
  (0x2047, 0x2049), (0x2100, 0x2101), (0x2105, 0x2106), (0x2A74, 0x2A74), (0xFE13, 0xFE13),
  (0xFE16, 0xFE16), (0xFE55, 0xFE56), (0xFE5F, 0xFE5F), (0xFE6B, 0xFE6B), (0xFF03, 0xFF03),
  (0xFF0F, 0xFF0F), (0xFF1A, 0xFF1A), (0xFF1F, 0xFF20)]⟩

/-- Whether a character may stand in a scheme. -/
def isSchemeChar (c : Char) : Bool := c.isAlphanum || c == '+' || c == '-' || c == '.'

/-- A text up to the first occurrence of a character, and what follows that occurrence. -/
def cutAt (c : Char) (cs : List Char) : List Char × List Char :=
  (cs.takeWhile (· != c), (cs.dropWhile (· != c)).drop 1)

/-- A text without the characters that do not count in a URI. -/
def clean (cs : List Char) : List Char :=
  (cs.dropWhile (·.toNat ≤ 0x20)).filter fun c => c != '\t' && c != '\r' && c != '\n'

/-- The scheme, in lower case, and what follows it. -/
def cutScheme (cs : List Char) : List Char × List Char :=
  let (scheme, rest) := cutAt ':' cs
  if cs.contains ':' && scheme.head?.any Char.isAlpha && scheme.all isSchemeChar then
    (scheme.map Char.toLower, rest)
  else ([], cs)

/-- The host of an authority with brackets, unless something stands before the brackets, or behind
them without a colon. -/
def bracketedHost? (authority : List Char) : Option (List Char) :=
  let place := (authority.reverse.takeWhile (· != '@')).reverse
  if place.contains '[' then
    let (before, inside) := cutAt '[' place
    let (host, rest) := cutAt ']' inside
    if before.isEmpty && (rest.isEmpty || rest.head? == some ':') then some host else none
  else some (cutAt ':' place).1

/-- Whether the brackets of an authority stand around an address, and no character in it stands for
a delimiter. -/
def isAuthority (cs : List Char) : Bool :=
  cs.contains '[' == cs.contains ']' &&
    (!cs.contains '[' || (bracketedHost? cs).any isBracketedHost) &&
    !cs.any delimiterLookalikes.contains

/-- The parts of a URI, unless its authority is malformed. -/
def split (uri : String) : Except Failure Uri := do
  let (scheme, rest) := cutScheme (clean uri.toList)
  let isEnd := fun (c : Char) => c == '/' || c == '?' || c == '#'
  let (authority, rest) :=
    match rest with
    | '/' :: '/' :: rest => (rest.takeWhile (!isEnd ·), rest.dropWhile (!isEnd ·))
    | _ => ([], rest)
  if !isAuthority authority then throw (.misfit (.malformedUri uri))
  let (rest, fragment) := cutAt '#' rest
  let (path, query) := cutAt '?' rest
  return ⟨scheme, authority, path, query, fragment⟩

/-- A path without its parameters, and the parameters. -/
def cutParameters (scheme path : List Char) : List Char × List Char :=
  if parameterSchemes.contains (String.ofList scheme) then
    let last := (path.reverse.takeWhile (· != '/')).reverse
    let (kept, parameters) := cutAt ';' last
    (path.take (path.length - last.length) ++ kept, parameters)
  else (path, [])

/-- A path with parameters, if there are any. -/
def withParameters (path parameters : List Char) : List Char :=
  if parameters.isEmpty then path else path ++ ';' :: parameters

/-- The text of a URI. -/
def unsplit (u : Uri) : String :=
  let (path, parameters) := cutParameters u.scheme u.path
  let path := withParameters path parameters
  let rooted :=
    !u.authority.isEmpty ||
      (!u.scheme.isEmpty && authoritySchemes.contains (String.ofList u.scheme) &&
        !"//".toList.isPrefixOf path)
  let hier :=
    if rooted then
      "//".toList ++ u.authority ++
        (if path.isEmpty || path.head? == some '/' then path else '/' :: path)
    else path
  String.ofList (
    (if u.scheme.isEmpty then [] else u.scheme ++ [':']) ++ hier ++
    (if u.query.isEmpty then [] else '?' :: u.query) ++
    (if u.fragment.isEmpty then [] else '#' :: u.fragment))

/-- A reference without its fragment, and the fragment. -/
def defragment (reference : String) : Except Failure (String × List Char) := do
  if reference.toList.contains '#' then
    let u ← split reference
    return ({ u with fragment := [] }.unsplit, u.fragment)
  else return (reference, [])

/-! ### References beside a base -/

/-- Follow the segments of a path from the segments `done`, which are reversed: a double dot goes
back by one. -/
def followSegments (done : List (List Char)) : List (List Char) → List (List Char)
  | [] => done.reverse
  | ['.', '.'] :: rest => followSegments (done.drop 1) rest
  | ['.'] :: rest => followSegments done rest
  | segment :: rest => followSegments (segment :: done) rest

/-- The segments that a path means beside the path of the base. -/
def joinedSegments (base path : List Char) : List (List Char) :=
  let segments := path.splitOn '/'
  if path.head? == some '/' then segments
  else
    let directory := base.splitOn '/'
    let directory := if directory.getLast? == some [] then directory else directory.dropLast
    let all := directory ++ segments
    all.take 1 ++ ((all.drop 1).dropLast.filter (!·.isEmpty)) ++ (all.drop 1).getLast?.toList

/-- The path that a path means beside the path of the base. -/
def joinPaths (base path : List Char) : List Char :=
  let segments := joinedSegments base path
  let followed := followSegments [] segments
  let followed :=
    if segments.getLast?.any fun s => s == ['.'] || s == ['.', '.'] then followed ++ [[]]
    else followed
  let joined := (Text.joinWith "/" (followed.map String.ofList)).toList
  if joined.isEmpty then ['/'] else joined

/-- What a reference means beside a base. -/
def join (base reference : String) : Except Failure String := do
  if base.isEmpty then return reference
  if reference.isEmpty then return base
  let b ← split base
  let r ← split reference
  let scheme := if r.scheme.isEmpty then b.scheme else r.scheme
  if scheme != b.scheme || !relativeSchemes.contains (String.ofList scheme) then return reference
  let netted := authoritySchemes.contains (String.ofList scheme)
  if netted && !r.authority.isEmpty then return { r with scheme }.unsplit
  let authority := if netted then b.authority else r.authority
  let (path, parameters) := cutParameters scheme r.path
  if path.isEmpty && parameters.isEmpty then
    let query := if r.query.isEmpty then b.query else r.query
    return { r with scheme, authority, path := b.path, query }.unsplit
  let (basePath, _) := cutParameters b.scheme b.path
  return { r with
    scheme, authority, path := withParameters (joinPaths basePath path) parameters }.unsplit

/-! ### Percent escapes -/

/-- A part of a text with percent escapes: an octet, or a character beyond ASCII. -/
inductive Escaped where
  | octet (b : UInt8)
  | char (c : Char)

/-- The octets and characters of a text; a percent sign without two digits stands for itself. -/
def escapedParts : List Char → List Escaped
  | [] => []
  | '%' :: a :: b :: cs =>
    match Text.hexValue? a, Text.hexValue? b with
    | some high, some low => .octet (high * 16 + low).toUInt8 :: escapedParts cs
    | _, _ => .octet '%'.toUInt8 :: escapedParts (a :: b :: cs)
  | c :: cs => (if c.toNat < 0x80 then .octet c.toUInt8 else .char c) :: escapedParts cs

/-- The characters of some parts after the octets in `run`, which are reversed. -/
def decodeParts (run : List UInt8) : List Escaped → List Char
  | [] => Text.Utf8.decodeLossy run.reverse
  | .octet b :: parts => decodeParts (b :: run) parts
  | .char c :: parts => Text.Utf8.decodeLossy run.reverse ++ c :: decodeParts [] parts

/-- A text with its percent escapes read as UTF-8. -/
def percentDecode (cs : List Char) : List Char := decodeParts [] (escapedParts cs)

end Uri

end StructGen
