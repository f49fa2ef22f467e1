import StructGen.Text.Quoted

/-!
# Decoding UTF-8

The octets of a file are read one at a time into pieces, each a character or a fault. A fault
covers the longest start of a character that was still possible, and reading goes on with the
octet after it.

* `decode?` gives the text, or the first fault;
* `decodeLossy` puts a replacement character for every fault.
-/

namespace StructGen.Text.Utf8

/-- Why octets are not UTF-8. -/
inductive Reason where
  /-- The octet starts no character. -/
  | invalidStart
  /-- The octet does not go on with the character. -/
  | invalidContinuation
  /-- The octets end inside a character. -/
  | unexpectedEnd
  deriving DecidableEq, Repr

/-- The wording of a reason. -/
def Reason.text : Reason → String
  | .invalidStart => "invalid start byte"
  | .invalidContinuation => "invalid continuation byte"
  | .unexpectedEnd => "unexpected end of data"

/-- Octets that are not UTF-8: where they start, how many, the first of them and the reason. -/
structure Fault where
  position : Nat
  length : Nat
  octet : UInt8
  reason : Reason
  deriving DecidableEq, Repr

/-- The wording of a fault; several octets are named by their positions, one by its value too. -/
def Fault.message (f : Fault) : String :=
  let place :=
    if f.length ≤ 1 then
      "byte 0x" ++ String.ofList (hexDigits 2 f.octet.toNat) ++ " in position " ++
        toString f.position
    else
      "bytes in position " ++ toString f.position ++ "-" ++ toString (f.position + f.length - 1)
  "'utf-8' codec can't decode " ++ place ++ ": " ++ f.reason.text

/-- What stands at a place of the octets. -/
inductive Piece where
  | char (c : Char)
  | fault (f : Fault)
  deriving DecidableEq, Repr

/-- A character of which some octets have been read. -/
structure Open where
  /-- Where the character starts. -/
  position : Nat
  /-- Its first octet. -/
  octet : UInt8
  /-- The number of octets read. -/
  taken : Nat
  /-- The number of octets still to come, less one. -/
  owed : Nat
  /-- The least value of the next octet. -/
  low : Nat
  /-- The greatest value of the next octet. -/
  high : Nat
  /-- The bits read so far. -/
  bits : Nat

/-- The fault of a character that cannot go on. -/
def Open.fault (o : Open) (r : Reason) : Piece := .fault ⟨o.position, o.taken, o.octet, r⟩

/-- An octet between two characters: a character of its own, a fault, or the start of more. -/
def start (position : Nat) (b : UInt8) : List Piece × Option Open :=
  let n := b.toNat
  let opened (owed low high bits : Nat) : List Piece × Option Open :=
    ([], some ⟨position, b, 1, owed, low, high, bits⟩)
  if n < 0x80 then ([.char (Char.ofNat n)], none)
  else if n < 0xC2 then ([.fault ⟨position, 1, b, .invalidStart⟩], none)
  else if n < 0xE0 then opened 0 0x80 0xBF (n - 0xC0)
  else if n = 0xE0 then opened 1 0xA0 0xBF 0
  else if n = 0xED then opened 1 0x80 0x9F 0xD
  else if n < 0xF0 then opened 1 0x80 0xBF (n - 0xE0)
  else if n = 0xF0 then opened 2 0x90 0xBF 0
  else if n < 0xF4 then opened 2 0x80 0xBF (n - 0xF0)
  else if n = 0xF4 then opened 2 0x80 0x8F 4
  else ([.fault ⟨position, 1, b, .invalidStart⟩], none)

/-- One octet, given the character that is open before it. -/
def step (position : Nat) (o : Option Open) (b : UInt8) : List Piece × Option Open :=
  match o with
  | none => start position b
  | some o =>
    if o.low ≤ b.toNat && b.toNat ≤ o.high then
      let bits := o.bits * 64 + b.toNat % 64
      match o.owed with
      | 0 => ([.char (Char.ofNat bits)], none)
      | owed + 1 => ([], some { o with taken := o.taken + 1, owed, low := 0x80, high := 0xBF, bits })
    else
      let (pieces, next) := start position b
      (o.fault .invalidContinuation :: pieces, next)

/-- The pieces of the octets from a position on. -/
def piecesFrom (position : Nat) (o : Option Open) : List UInt8 → List Piece
  | [] => (o.map (·.fault .unexpectedEnd)).toList
  | b :: bs =>
    let (pieces, next) := step position o b
    pieces ++ piecesFrom (position + 1) next bs

/-- The pieces of some octets. -/
def pieces (octets : List UInt8) : List Piece := piecesFrom 0 none octets

/-- The characters before the first fault, or that fault. -/
def charsOf : List Piece → Except Fault (List Char)
  | [] => .ok []
  | .char c :: ps => (charsOf ps).map (c :: ·)
  | .fault f :: _ => .error f

/-- The characters of some octets, or the first fault. -/
def decode? (octets : List UInt8) : Except Fault (List Char) := charsOf (pieces octets)

/-- The characters of some octets, with a replacement character for every fault. -/
def decodeLossy (octets : List UInt8) : List Char :=
  (pieces octets).map fun
    | .char c => c
    | .fault _ => '\ufffd'

end StructGen.Text.Utf8
