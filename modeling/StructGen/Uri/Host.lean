import StructGen.Text.Lines
import StructGen.Json.Reader

/-!
# Hosts in brackets

A host in brackets is an address of version six, or of a later version when it starts with `v`.
An address of version six is eight groups of hexadecimal digits, of which one run may be left out,
and its last two groups may be written as an address of version four.
-/

namespace StructGen.Uri

/-- Whether a text is some hexadecimal digits, four at most. -/
def isGroup (cs : List Char) : Bool :=
  !cs.isEmpty && cs.length ≤ 4 && cs.all fun c => (Text.hexValue? c).isSome

/-- Whether a text is a number below 256 without leading zeros. -/
def isOctet (cs : List Char) : Bool :=
  !cs.isEmpty && cs.length ≤ 3 && cs.all Json.isAsciiDigit &&
    (cs.length == 1 || cs.head? != some '0') && Text.digitsValue cs ≤ 255

/-- Whether a text is an address of version four. -/
def isVersionFour (cs : List Char) : Bool :=
  let octets := cs.splitOn '.'
  octets.length == 4 && octets.all isOctet

/-- The groups between colons, an address of version four at the end counting as two. -/
def addressGroups (cs : List Char) : Option (List (List Char)) :=
  let groups := cs.splitOn ':'
  match groups.getLast? with
  | some last =>
    if last.contains '.' then
      if isVersionFour last then some (groups.dropLast ++ [['0'], ['0']]) else none
    else some groups
  | none => none

/-- Whether groups make an address: eight of them, or fewer with one run left out. -/
def areGroups (groups : List (List Char)) : Bool :=
  let inner := (groups.drop 1).dropLast
  let gaps := inner.countP List.isEmpty
  if gaps = 0 then groups.length == 8 && groups.all isGroup
  else
    let before := inner.takeWhile (!·.isEmpty)
    let after := (inner.dropWhile (!·.isEmpty)).drop 1
    let first := groups.head?.getD []
    let last := groups.getLast?.getD []
    let high := before.length + (if first.isEmpty then 0 else 1)
    let low := after.length + (if last.isEmpty then 0 else 1)
    gaps == 1 && (!first.isEmpty || before.isEmpty) && (!last.isEmpty || after.isEmpty) &&
      high + low ≤ 7 && (before ++ after).all isGroup &&
      (first.isEmpty || isGroup first) && (last.isEmpty || isGroup last)

/-- Whether a text is an address of version six, perhaps with a zone. -/
def isVersionSix (cs : List Char) : Bool :=
  let address := cs.takeWhile (· != '%')
  let zone := cs.drop address.length
  let zoned := zone.isEmpty || (zone.length > 1 && !(zone.drop 1).contains '%')
  zoned && !cs.contains '/' &&
    match addressGroups address with
    | some groups => 3 ≤ groups.length && groups.length ≤ 9 && areGroups groups
    | none => false

/-- Whether a text is an address of a later version: `v`, a version, a point and more. -/
def isLaterVersion (cs : List Char) : Bool :=
  match cs with
  | 'v' :: cs =>
    let version := cs.takeWhile fun c => (Text.hexValue? c).isSome
    let rest := cs.drop version.length
    !version.isEmpty && rest.head? == some '.' && rest.length > 1 && !rest.contains '\n'
  | _ => false

/-- Whether a text may stand in brackets as a host. -/
def isBracketedHost (cs : List Char) : Bool :=
  if cs.head? == some 'v' then isLaterVersion cs else isVersionSix cs

end StructGen.Uri
