import StructGen.Json.Basic
import StructGen.Text.Digit
import StructGen.Text.Surrogates

/-!
# Reading JSON text

The reader takes one value, with blanks around it, and reports what it expected and where. It also
takes `NaN`, `Infinity` and `-Infinity`. A key that occurs again keeps its first place and takes
the last value. Half of a surrogate pair without the other half is kept as a character of a spare
plane.

* `Json.Malformation` is what can be wrong, `Json.ReadFault` adds the place;
* `Json.read` reads a whole text.
-/

namespace StructGen.Json

/-- What is wrong at some place of a JSON text. -/
inductive Malformation where
  | value
  | propertyName
  | colon
  | comma
  | extraData
  | unterminatedString
  | controlCharacter
  | badEscape
  | badUnicodeEscape
  | byteOrderMark
  deriving DecidableEq, Repr

/-- The wording of a malformation. -/
def Malformation.text : Malformation → String
  | .value => "Expecting value"
  | .propertyName => "Expecting property name enclosed in double quotes"
  | .colon => "Expecting ':' delimiter"
  | .comma => "Expecting ',' delimiter"
  | .extraData => "Extra data"
  | .unterminatedString => "Unterminated string starting at"
  | .controlCharacter => "Invalid control character at"
  | .badEscape => "Invalid \\escape"
  | .badUnicodeEscape => "Invalid \\uXXXX escape"
  | .byteOrderMark => "Unexpected UTF-8 BOM (decode using utf-8-sig)"

/-- Why a text is not read as JSON. -/
inductive ReadFault where
  /-- The text is malformed at a character, counted from zero. -/
  | malformed (what : Malformation) (position : Nat)
  /-- An integer has more digits than are accepted. -/
  | tooManyDigits
  deriving DecidableEq, Repr

/-- The place of a character as line, column and offset. -/
def placeText (text : List Char) (position : Nat) : String :=
  let before := text.take position
  let line := before.count '\n' + 1
  let column := (before.reverse.takeWhile (· != '\n')).length + 1
  "line " ++ toString line ++ " column " ++ toString column ++ " (char " ++ toString position ++ ")"

/-- The wording of a malformation with its place in the text. -/
def malformedText (text : List Char) (what : Malformation) (position : Nat) : String :=
  what.text ++ ": " ++ placeText text position

/-- The rest of a text and the number of characters before it. -/
structure Cursor where
  position : Nat
  rest : List Char

namespace Cursor

/-- The cursor after some characters. -/
def skip (c : Cursor) (n : Nat) : Cursor := ⟨c.position + n, c.rest.drop n⟩

/-- Whether a character may stand between two tokens. -/
def isSpace (c : Char) : Bool := c == ' ' || c == '\t' || c == '\n' || c == '\r'

/-- The cursor after the blanks that come next. -/
def skipSpaces (c : Cursor) : Cursor := c.skip (c.rest.takeWhile isSpace).length

/-- A fault at the cursor. -/
def fail {α : Type} (c : Cursor) (what : Malformation) : Except ReadFault α :=
  .error (.malformed what c.position)

end Cursor

/-! ### Strings -/

/-- Where the reader stands inside a string; a high surrogate waits for its partner. -/
inductive StringState where
  | plain
  | escape (backslash : Nat)
  | hex (mark : Nat) (left : Nat) (value : Nat)

/-- The character that a letter after a backslash stands for. -/
def escaped? (c : Char) : Option Char :=
  match c with
  | '"' => some '"'
  | '\\' => some '\\'
  | '/' => some '/'
  | 'b' => some '\x08'
  | 'f' => some '\x0c'
  | 'n' => some '\n'
  | 'r' => some '\r'
  | 't' => some '\t'
  | _ => none

/-- The characters read so far, reversed, with a high surrogate that may wait for its partner. -/
structure Unfinished where
  chars : List Char := []
  high : Option Nat := none

namespace Unfinished

/-- A surrogate that waits in vain stays alone. -/
def settle (spare : Text.Plane) (u : Unfinished) : List Char :=
  match u.high with
  | some high => spare.standIn high :: u.chars
  | none => u.chars

/-- Add a character. -/
def push (spare : Text.Plane) (u : Unfinished) (c : Char) : Unfinished :=
  ⟨c :: u.settle spare, none⟩

/-- Add a sixteen-bit unit. -/
def pushUnit (spare : Text.Plane) (u : Unfinished) (unit : Nat) : Unfinished :=
  if Text.isHighSurrogate unit then ⟨u.settle spare, some unit⟩
  else if Text.isLowSurrogate unit then
    match u.high with
    | some high =>
      ⟨Char.ofNat (0x10000 + (high - 0xD800) * 0x400 + (unit - 0xDC00)) :: u.chars, none⟩
    | none => u.push spare (spare.standIn unit)
  else u.push spare (Char.ofNat unit)

end Unfinished

/-- Read the rest of a string whose quote stands at `start`, from position `p` on. -/
def readStringFrom (spare : Text.Plane) (start : Nat) (p : Nat) (st : StringState) (u : Unfinished) :
    List Char → Except ReadFault (String × Cursor)
  | [] =>
    match st with
    | .hex mark _ _ => .error (.malformed .badUnicodeEscape mark)
    | _ => .error (.malformed .unterminatedString start)
  | c :: cs =>
    match st with
    | .plain =>
      if c = '"' then .ok (String.ofList (u.settle spare).reverse, ⟨p + 1, cs⟩)
      else if c = '\\' then readStringFrom spare start (p + 1) (.escape p) u cs
      else if c.toNat < 0x20 then .error (.malformed .controlCharacter p)
      else readStringFrom spare start (p + 1) .plain (u.push spare c) cs
    | .escape backslash =>
      if c = 'u' then readStringFrom spare start (p + 1) (.hex p 4 0) u cs
      else match escaped? c with
        | some d => readStringFrom spare start (p + 1) .plain (u.push spare d) cs
        | none => .error (.malformed .badEscape backslash)
    | .hex mark left value =>
      match Text.hexValue? c with
      | none => .error (.malformed .badUnicodeEscape mark)
      | some d =>
        let value := value * 16 + d
        if left ≤ 1 then
          if cs.isEmpty then .error (.malformed .badUnicodeEscape mark)
          else readStringFrom spare start (p + 1) .plain (u.pushUnit spare value) cs
        else readStringFrom spare start (p + 1) (.hex mark (left - 1) value) u cs

/-- Read the string whose quote stands before the cursor. -/
def readString (spare : Text.Plane) (c : Cursor) : Except ReadFault (String × Cursor) :=
  readStringFrom spare (c.position - 1) c.position .plain {} c.rest

/-! ### Numbers -/

/-- Whether a character is an ASCII digit. -/
def isAsciiDigit (c : Char) : Bool := '0' ≤ c && c ≤ '9'

/-- The characters of a number: sign, whole digits, digits after the point and exponent. -/
structure NumberText where
  negative : Bool
  whole : List Char
  fraction : List Char
  exponent : Option (Bool × List Char)

/-- The number of characters that a number text takes, `signed` telling whether its exponent has
a sign of its own. -/
def NumberText.length (t : NumberText) (signed : Bool) : Nat :=
  (if t.negative then 1 else 0) + t.whole.length +
    (if t.fraction.isEmpty then 0 else t.fraction.length + 1) +
    (match t.exponent with
      | none => 0
      | some (_, digits) => digits.length + (if signed then 2 else 1))

/-- The exponent at the start of a text: its sign, its digits and whether the sign is written. -/
def scanExponent : List Char → Option (Bool × List Char × Bool)
  | e :: cs =>
    if e = 'e' || e = 'E' then
      let signed := cs.head?.any fun c => c == '+' || c == '-'
      let digits := (if signed then cs.drop 1 else cs).takeWhile isAsciiDigit
      if digits.isEmpty then none else some (cs.head? == some '-', digits, signed)
    else none
  | [] => none

/-- The number at the start of a text, with the number of characters it takes. -/
def scanNumber (cs : List Char) : Option (NumberText × Nat) := do
  let negative := cs.head? == some '-'
  let cs := if negative then cs.drop 1 else cs
  let whole :=
    match cs with
    | '0' :: _ => ['0']
    | _ => cs.takeWhile isAsciiDigit
  if whole.isEmpty then none
  let cs := cs.drop whole.length
  let fraction :=
    match cs with
    | '.' :: more => more.takeWhile isAsciiDigit
    | _ => []
  let cs := if fraction.isEmpty then cs else cs.drop (fraction.length + 1)
  match scanExponent cs with
  | some (down, digits, signed) =>
    let t : NumberText := ⟨negative, whole, fraction, some (down, digits)⟩
    some (t, t.length signed)
  | none =>
    let t : NumberText := ⟨negative, whole, fraction, none⟩
    some (t, t.length false)

/-- The double nearest to `digits · 10 ^ exponent`. -/
def nearestFloat (digits : Nat) (exponent : Int) : Float :=
  let magnitude : Int := (Nat.toDigits 10 digits).length + exponent
  if digits = 0 || magnitude < -400 then 0
  else if magnitude > 400 then Float.ofScientific 1 false 400
  else Float.ofScientific digits (exponent < 0) exponent.natAbs

/-- The value of a number text. -/
def NumberText.value (t : NumberText) : Except ReadFault Json :=
  if t.fraction.isEmpty && t.exponent.isNone then
    if t.whole.length > Text.maxDigits then .error .tooManyDigits
    else
      let n : Int := Text.digitsValue t.whole
      .ok (.int (if t.negative then -n else n))
  else
    let shift : Int :=
      match t.exponent with
      | none => 0
      | some (down, digits) =>
        let n : Int := Text.digitsValue digits
        if down then -n else n
    let x := nearestFloat (Text.digitsValue (t.whole ++ t.fraction)) (shift - t.fraction.length)
    .ok (.float (if t.negative then -x else x))

/-! ### Values -/

/-- The constants, by their words. -/
def constants : List (String × Json) :=
  [("null", .null), ("true", .bool true), ("false", .bool false), ("NaN", .float (0 / 0)),
    ("Infinity", .float (1 / 0)), ("-Infinity", .float (-1 / 0))]

/-- The constant at the start of a text. -/
def constant? (cs : List Char) : Option (Json × Nat) :=
  (constants.find? fun (word, _) => word.toList.isPrefixOf cs).map fun (word, v) => (v, word.length)

/-- Read a constant or a number. -/
def readScalar (c : Cursor) : Except ReadFault (Json × Cursor) :=
  match constant? c.rest with
  | some (v, n) => .ok (v, c.skip n)
  | none =>
    match scanNumber c.rest with
    | some (t, n) => return (← t.value, c.skip n)
    | none => c.fail .value

mutual

/-- Read the value at the cursor; `fuel` bounds the number of steps. -/
def readValue (spare : Text.Plane) : Nat → Cursor → Except ReadFault (Json × Cursor)
  | 0, c => c.fail .value
  | fuel + 1, c =>
    match c.rest.head? with
    | some '"' => do
      let (s, c) ← readString spare (c.skip 1)
      return (.str s, c)
    | some '[' =>
      let c := (c.skip 1).skipSpaces
      if c.rest.head? == some ']' then .ok (.arr [], c.skip 1) else readItems spare fuel [] c
    | some '\x7b' =>
      let c := (c.skip 1).skipSpaces
      if c.rest.head? == some '\x7d' then .ok (.obj [], c.skip 1) else readMembers spare fuel [] c
    | _ => readScalar c

/-- Read the items of an array after those in `items`, which are reversed. -/
def readItems (spare : Text.Plane) : Nat → List Json → Cursor → Except ReadFault (Json × Cursor)
  | 0, _, c => c.fail .value
  | fuel + 1, items, c => do
    let (v, c) ← readValue spare fuel c
    let c := c.skipSpaces
    match c.rest.head? with
    | some ']' => return (.arr (v :: items).reverse, c.skip 1)
    | some ',' => readItems spare fuel (v :: items) (c.skip 1).skipSpaces
    | _ => c.fail .comma

/-- Read the entries of an object after those in `entries`. -/
def readMembers (spare : Text.Plane) : Nat → Entries → Cursor → Except ReadFault (Json × Cursor)
  | 0, _, c => c.fail .value
  | fuel + 1, entries, c => do
    if c.rest.head? != some '"' then c.fail .propertyName
    let (key, c) ← readString spare (c.skip 1)
    let c := c.skipSpaces
    if c.rest.head? != some ':' then c.fail .colon
    let (v, c) ← readValue spare fuel (c.skip 1).skipSpaces
    let entries := putEntry key v entries
    let c := c.skipSpaces
    match c.rest.head? with
    | some '\x7d' => return (.obj entries, c.skip 1)
    | some ',' => readMembers spare fuel entries (c.skip 1).skipSpaces
    | _ => c.fail .comma

end

/-- Read a whole text as one value. -/
def read (spare : Text.Plane) (text : List Char) : Except ReadFault Json := do
  let c : Cursor := ⟨0, text⟩
  if text.head? == some '\ufeff' then c.fail .byteOrderMark
  let (v, c) ← readValue spare (2 * text.length + 2) c.skipSpaces
  let c := c.skipSpaces
  if c.rest.isEmpty then return v else c.fail .extraData

end StructGen.Json
