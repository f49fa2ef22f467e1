import StructGen.Pattern.Escape
import StructGen.Pattern.Width
import StructGen.Text.Identifier
import StructGen.Text.Integer

/-!
# Reading patterns

A pattern is read token by token. `Reading` is what is known so far: the level that is being read,
the levels around it, the groups and their widths, the options. Each step reads one item, opens a
group or closes one.

* `step` reads what starts with a token;
* `check` tells whether a text is a pattern, and what is wrong otherwise.
-/

namespace StructGen.Pattern

/-! ### What is known while reading -/

/-- What a repetition may follow: a whole item, but no place between characters and no other
repetition. -/
inductive PieceKind where
  | whole
  | place
  | repeated
  deriving DecidableEq, Repr

/-- An item of a pattern. -/
structure Piece where
  kind : PieceKind
  width : Width
  deriving DecidableEq, Repr

/-- An item that matches one character. -/
def Piece.single : Piece := ⟨.whole, .one⟩

/-- A place between characters. -/
def Piece.place : Piece := ⟨.place, .zero⟩

/-- A level of a pattern: the whole, or the inside of a group. -/
structure Level where
  /-- Whether blanks and remarks are left aside. -/
  verbose : Bool := false
  /-- The alternatives that are complete, last first. -/
  branches : List Width := []
  /-- The width of the items before the last one. -/
  before : Width := .zero
  /-- The last item of the alternative that is being read. -/
  last : Option Piece := none
  deriving DecidableEq, Repr

/-- The width of the alternative that is being read. -/
def Level.branch (level : Level) : Width :=
  match level.last with
  | some piece => level.before.andThen piece.width
  | none => level.before

/-- The width of a level. -/
def Level.width (level : Level) : Width := level.branches.foldl Width.orElse level.branch

/-- Add an item. -/
def Level.push (level : Level) (piece : Piece) : Level :=
  { level with before := level.branch, last := some piece }

/-- Start another alternative. -/
def Level.next (level : Level) : Level :=
  { level with branches := level.branch :: level.branches, before := .zero, last := none }

/-- How a level was opened. -/
inductive Opening where
  /-- A group, with its number if it is remembered. -/
  | group (index : Option Nat)
  | lookAhead
  /-- A look back; the outermost one ends the restriction on groups. -/
  | lookBack (outermost : Bool)
  /-- A choice that depends on a group. -/
  | condition
  deriving DecidableEq, Repr

/-- What is known of a pattern while it is read. -/
structure Reading where
  /-- The level that is being read. -/
  level : Level := {}
  /-- The levels around it, innermost first, each with what opened the level inside it. -/
  outer : List (Opening × Level) := []
  /-- The groups in order, each with its width once it is closed. -/
  groups : List (Option Width) := []
  /-- The names of groups. -/
  names : List (List Char × Nat) := []
  /-- The number of groups before the outermost look back that is open. -/
  lookBack : Option Nat := none
  /-- The greatest number of a group that a condition asks for. -/
  asked : Nat := 0
  /-- The options for the whole pattern. -/
  options : List Char := []
  /-- Whether there is a repetition. -/
  repeats : Bool := false
  /-- Whether everything that looks back has a fixed width. -/
  fixed : Bool := true
  /-- The number of characters of the farthest look back. -/
  farthest : Nat := 0
  deriving DecidableEq, Repr

namespace Reading

/-- Add an item to the level that is being read. -/
def push (r : Reading) (piece : Piece) : Reading := { r with level := r.level.push piece }

/-- Open a level. -/
def enter (r : Reading) (opening : Opening) (verbose : Bool) : Reading :=
  { r with level := { verbose }, outer := (opening, r.level) :: r.outer }

/-- The width of a group that is closed. -/
def groupWidth? (r : Reading) (index : Nat) : Option Width :=
  if index = 0 then none else (r.groups[index - 1]?).join

/-- Whether a group may be asked for here: inside a look back it has to be closed before. -/
def isVisible (r : Reading) (index : Nat) : Bool :=
  match r.lookBack with
  | some count => (r.groupWidth? index).isSome && index ≤ count
  | none => true

/-- A reference to a group. -/
def refer (r : Reading) (index : Nat) : Except Fault Reading :=
  match r.groupWidth? index with
  | some width => if r.isVisible index then .ok (r.push ⟨.whole, width⟩) else .error .malformed
  | none => .error .malformed

end Reading

/-- The tokens behind an item, or a malformed pattern. -/
def demand {α : Type} (x : Option α) : Except Fault α :=
  match x with
  | some a => .ok a
  | none => .error .malformed

/-! ### Escapes outside sets -/

/-- Read an escape whose first character is a digit other than zero: three digits to the base
eight are a character, anything else is a reference to a group. -/
def readDigitEscape (r : Reading) (c : Char) (ts : List Token) :
    Except Fault (Reading × List Token) :=
  let (octals, afterOctals) := takePlain isOctalDigit 2 ts
  if isOctalDigit c && octals.length = 2 then
    if octalValue (c :: octals) ≤ maxOctal then .ok (r.push .single, afterOctals)
    else .error .malformed
  else
    let (more, rest) := takePlain Char.isDigit 1 ts
    (r.refer (Text.digitsValue (c :: more))).map (·, rest)

/-- Read an escape whose first character is `c`. -/
def readEscape (r : Reading) (c : Char) (ts : List Token) : Except Fault (Reading × List Token) :=
  if placeLetters.contains c then .ok (r.push .place, ts)
  else if classLetters.contains c then .ok (r.push .single, ts)
  else if c = '0' then .ok (r.push .single, (takePlain isOctalDigit 2 ts).2)
  else if c.isDigit then readDigitEscape r c ts
  else do
    let (_, rest) ← demand (escapedChar? c ts)
    return (r.push .single, rest)

/-! ### Repetitions -/

/-- The number from which on a count is too large. -/
def countBound : Nat := Nat.pow 2 32 - 1

/-- The digits of the least and the greatest count between braces, and the tokens behind the
closing brace, if this is a repetition. -/
def countDigits? (ts : List Token) : Option (List Char × List Char × List Token) :=
  if ts.head? = some (.plain '\x7d') then none
  else
    let (least, ts) := takePlain Char.isDigit ts.length ts
    let (greatest, ts) :=
      match ts with
      | .plain ',' :: ts => takePlain Char.isDigit ts.length ts
      | ts => (least, ts)
    match ts with
    | .plain '\x7d' :: ts => some (least, greatest, ts)
    | _ => none

/-- The count that digits denote; no digits denote none. -/
def readCount (digits : List Char) : Except Fault (Option Nat) :=
  if digits.isEmpty then .ok none
  else if digits.length > Text.maxDigits then .error .tooManyDigits
  else if Text.digitsValue digits ≥ countBound then .error .countTooLarge
  else .ok (some (Text.digitsValue digits))

/-- Repeat the last item; a question mark or a plus behind a repetition belongs to it. -/
def repeatLast (r : Reading) (least : Nat) (greatest : Option Nat) (ts : List Token) :
    Except Fault (Reading × List Token) :=
  match r.level.last with
  | some ⟨.whole, width⟩ =>
    let level := { r.level with last := some ⟨.repeated, width.times least greatest⟩ }
    let rest :=
      if ts.head? = some (.plain '?') || ts.head? = some (.plain '+') then ts.drop 1 else ts
    .ok ({ r with level, repeats := true }, rest)
  | _ => .error .malformed

/-- Read a repetition between braces whose opening brace has been read; braces that hold no counts
stand for themselves. -/
def readCounts (r : Reading) (ts : List Token) : Except Fault (Reading × List Token) :=
  match countDigits? ts with
  | none => .ok (r.push .single, ts)
  | some (low, high, rest) =>
    if rest.head? = some .dangling then .error .malformed
    else do
      let least := (← readCount low).getD 0
      let greatest ← readCount high
      if greatest.any (· < least) then throw .malformed
      repeatLast r least greatest rest

/-! ### Groups -/

/-- The letters of options. -/
def optionLetters : List Char := ['a', 'i', 'm', 's', 't', 'u', 'x']

/-- The options that cannot be taken back. -/
def lastingOptions : List Char := ['a', 'u']

/-- Open a group that is remembered, perhaps by a name. -/
def openGroup (r : Reading) (name : Option (List Char)) : Reading :=
  let index := r.groups.length + 1
  let names := match name with
    | some name => (name, index) :: r.names
    | none => r.names
  { r with groups := r.groups ++ [none], names }.enter (.group (some index)) r.level.verbose

/-- Read options for the whole pattern, which stand before everything else, or for a group. The
first token has not been read. -/
def readOptions (r : Reading) (ts : List Token) : Except Fault (Reading × List Token) := do
  let (on, ts) := takePlain optionLetters.contains ts.length ts
  if on.contains 'a' && on.contains 'u' then throw .malformed
  match ts with
  | .plain ')' :: ts =>
    if on.isEmpty || !r.outer.isEmpty || !r.level.branches.isEmpty || r.level.last.isSome then
      throw .malformed
    let options := r.options ++ on
    return ({ r with options, level := { r.level with verbose := options.contains 'x' } }, ts)
  | .plain ':' :: ts =>
    if on.isEmpty || on.contains 't' then throw .malformed
    return (r.enter (.group none) (r.level.verbose || on.contains 'x'), ts)
  | .plain '-' :: ts =>
    let (off, ts) := takePlain optionLetters.contains ts.length ts
    match ts with
    | .plain ':' :: ts =>
      if off.isEmpty || on.contains 't' || off.contains 't' then throw .malformed
      if off.any fun c => lastingOptions.contains c || on.contains c then throw .malformed
      let verbose := (r.level.verbose || on.contains 'x') && !off.contains 'x'
      return (r.enter (.group none) verbose, ts)
    | _ => throw .malformed
  | _ => throw .malformed

/-- The greatest number of groups. -/
def groupBound : Nat := Nat.pow 2 30 - 1

/-- Read the group that a condition asks for, by name or by number. -/
def readCondition (r : Reading) (ts : List Token) : Except Fault (Reading × List Token) := do
  let (name, ts) ← demand (nameUpTo ')' ts)
  if Text.isIdentifier (String.ofList name) then
    let index ← demand (r.names.lookup name)
    if !r.isVisible index then throw .malformed
    return (r.enter .condition r.level.verbose, ts)
  else
    let index := (← demand (Text.readInteger name)).toNat
    if index = 0 || index ≥ groupBound || !r.isVisible index then throw .malformed
    return ({ r with asked := max r.asked index }.enter .condition r.level.verbose, ts)

/-- Read a group with a name, or a reference by name, whose letter has been read. -/
def readNamed (r : Reading) (ts : List Token) : Except Fault (Reading × List Token) := do
  match ts with
  | .plain '<' :: ts =>
    let (name, ts) ← demand (nameUpTo '>' ts)
    if !Text.isIdentifier (String.ofList name) || (r.names.lookup name).isSome then
      throw .malformed
    return (openGroup r (some name), ts)
  | .plain '=' :: ts =>
    let (name, ts) ← demand (nameUpTo ')' ts)
    let index ← demand (r.names.lookup name)
    return (← r.refer index, ts)
  | _ => throw .malformed

/-- Open a look back. -/
def openLookBack (r : Reading) : Reading :=
  { r with lookBack := r.lookBack <|> some r.groups.length }.enter
    (.lookBack r.lookBack.isNone) r.level.verbose

/-- Read the start of a group whose parenthesis has been read. -/
def readGroup (r : Reading) (ts : List Token) : Except Fault (Reading × List Token) :=
  let verbose := r.level.verbose
  match ts with
  | .plain '?' :: .plain c :: ts =>
    match c with
    | 'P' => readNamed r ts
    | ':' | '>' => .ok (r.enter (.group none) verbose, ts)
    | '#' => (demand (textUpTo ')' ts)).map fun (_, rest) => (r, rest)
    | '=' | '!' => .ok (r.enter .lookAhead verbose, ts)
    | '<' =>
      match ts with
      | .plain '=' :: ts | .plain '!' :: ts => .ok (openLookBack r, ts)
      | _ => .error .malformed
    | '(' => readCondition r ts
    | c => readOptions r (.plain c :: ts)
  | .plain '?' :: _ => .error .malformed
  | ts => .ok (openGroup r none, ts)

/-- Whether the options of a pattern contradict each other. -/
def Reading.isClashing (r : Reading) : Bool := r.options.contains 'a' && r.options.contains 'u'

/-- The width of a choice that depends on a group: without a second alternative it may match
nothing. -/
def Level.conditionWidth (level : Level) : Width :=
  if level.branches.isEmpty then level.width.orNothing else level.width

/-- Close the level that is being read. -/
def closeLevel (r : Reading) : Except Fault Reading :=
  match r.outer with
  | [] => .error (if r.isClashing then .clashingOptions else .malformed)
  | (opening, enclosing) :: outer =>
    let closed := { r with level := enclosing, outer }
    match opening with
    | .group (some index) =>
      .ok ({ closed with groups := r.groups.set (index - 1) (some r.level.width) }.push
        ⟨.whole, r.level.width⟩)
    | .group none => .ok (closed.push ⟨.whole, r.level.width⟩)
    | .lookAhead => .ok (closed.push ⟨.whole, .zero⟩)
    | .lookBack outermost =>
      let width := r.level.width
      .ok ({ closed with
        lookBack := if outermost then none else r.lookBack
        fixed := r.fixed && width.isFixed
        farthest := max r.farthest width.least }.push ⟨.whole, .zero⟩)
    | .condition => .ok (closed.push ⟨.whole, r.level.conditionWidth⟩)

/-- Start another alternative; a choice that depends on a group has two at most. -/
def nextBranch (r : Reading) : Except Fault Reading :=
  match r.outer with
  | [] => .ok { r with level := { r.level.next with verbose := r.options.contains 'x' } }
  | (.condition, _) :: _ =>
    if r.level.branches.isEmpty then .ok { r with level := r.level.next } else .error .malformed
  | _ => .ok { r with level := r.level.next }

/-! ### The whole pattern -/

/-- The blanks that are left aside where remarks are. -/
def isSpacing (c : Char) : Bool := [' ', '\t', '\n', '\r', '\x0b', '\x0c'].contains c

/-- The tokens behind a remark that goes to the end of its line. -/
def afterRemark (ts : List Token) : Except Fault (List Token) :=
  let rest := ts.dropWhile (· ≠ .plain '\n')
  if rest.isEmpty && ts.getLast? = some .dangling then .error .malformed else .ok (rest.drop 1)

/-- Read what starts with a plain character. -/
def readPlain (r : Reading) (c : Char) (ts : List Token) : Except Fault (Reading × List Token) :=
  if r.level.verbose && isSpacing c then .ok (r, ts)
  else if r.level.verbose && c = '#' then (afterRemark ts).map (r, ·)
  else match c with
    | '|' => (nextBranch r).map (·, ts)
    | ')' => (closeLevel r).map (·, ts)
    | '(' => readGroup r ts
    | '[' => (demand (afterSet? ts)).map (r.push .single, ·)
    | '*' => repeatLast r 0 none ts
    | '+' => repeatLast r 1 none ts
    | '?' => repeatLast r 0 (some 1) ts
    | '\x7b' => readCounts r ts
    | '^' | '$' => .ok (r.push .place, ts)
    | _ => .ok (r.push .single, ts)

/-- Read what starts with a token. -/
def step (r : Reading) (t : Token) (ts : List Token) : Except Fault (Reading × List Token) :=
  match t with
  | .plain c => readPlain r c ts
  | .escaped c => readEscape r c ts
  | .dangling => .error .malformed

/-- Read the tokens of a pattern, of which there are at most `fuel`. -/
def readFrom : (fuel : Nat) → Reading → List Token → Except Fault Reading
  | _, r, [] => .ok r
  | 0, _, _ => .error .malformed
  | fuel + 1, r, t :: ts => do
    let (r, rest) ← step r t ts
    readFrom fuel r rest

/-- Check what is known of a pattern at its end: all groups are closed, the options agree, the
groups that are asked for exist, nothing is repeated where that is switched off, what looks back
has a fixed width, and none of it looks back too far. -/
def finish (r : Reading) : Except Fault Unit :=
  if !r.outer.isEmpty then .error .malformed
  else if r.isClashing then .error .clashingOptions
  else if r.asked > r.groups.length || (r.options.contains 't' && r.repeats) || !r.fixed then
    .error .malformed
  else if r.farthest ≥ Width.lookBound then .error .lookBackTooFar
  else .ok ()

/-- Check that a text is a pattern. -/
def check (pattern : String) : Except Fault Unit := do
  let ts := tokens pattern.toList
  finish (← readFrom ts.length {} ts)

end StructGen.Pattern
