import StructGen.Json.Basic

/-!
# Lists of different values

Whether the values of a list are different is told by putting them in order and comparing
neighbours. Only numbers, texts and arrays have an order, and each only among its own kind; where
there is none, every value is compared with every other. In the order a flag inside an array
counts as one or zero, so two equal arrays with another one between them are not neighbours.

* `comesBefore?` is the order;
* `sorted?` puts values in order by inserting each into those before it;
* `allDistinct` tells whether a list holds no value twice.
-/

namespace StructGen.Json

/-! ### Order -/

/-- The number that a value counts as: a flag is one or zero. -/
def number? : Json → Option Json
  | .bool b => some (.int (if b then 1 else 0))
  | .int n => some (.int n)
  | .float x => some (.float x)
  | _ => none

/-- A finite double as an integer times a power of two. -/
def scaled (x : Float) : Int × Int :=
  match Binary.ofFloat? x with
  | some b => (if x < 0 then -(b.mantissa : Int) else b.mantissa, b.exponent)
  | none => (0, 0)

/-- How an integer compares with a double, exactly; nothing compares with what is no number. -/
def compareWithFloat? (n : Int) (x : Float) : Option Ordering :=
  if x.isNaN then none
  else if x.isInf then some (if x < 0 then .gt else .lt)
  else
    let (mantissa, exponent) := scaled x
    some (compare (n * Int.pow 2 (-exponent).toNat) (mantissa * Int.pow 2 exponent.toNat))

/-- Whether one number is less than another. -/
def isLess : Json → Json → Bool
  | .int a, .int b => a < b
  | .float a, .float b => a < b
  | .int a, .float b => compareWithFloat? a b == some .lt
  | .float a, .int b => compareWithFloat? b a == some .gt
  | _, _ => false

mutual

/-- Whether two values take the same place in the order. -/
def alike : Json → Json → Bool
  | .null, .null => true
  | .str a, .str b => a == b
  | .arr as, .arr bs => alikeLists as bs
  | .obj as, .obj bs => as.length == bs.length && alikeEntries as bs
  | a, b =>
    match number? a, number? b with
    | some a, some b => a.same b
    | _, _ => false

/-- Whether two lists are alike, item by item. -/
def alikeLists : List Json → List Json → Bool
  | [], [] => true
  | a :: as, b :: bs => alike a b && alikeLists as bs
  | _, _ => false

/-- Whether every entry is like the one under the same key in `bs`. -/
def alikeEntries : List (String × Json) → List (String × Json) → Bool
  | [], _ => true
  | (k, a) :: as, bs =>
    (match bs.lookup k with
      | some b => alike a b
      | none => false) && alikeEntries as bs

end

mutual

/-- Whether one value comes before another, if they have an order. -/
def comesBefore? : Json → Json → Option Bool
  | .str a, .str b => some (a < b)
  | .arr as, .arr bs => listComesBefore? as bs
  | a, b =>
    match number? a, number? b with
    | some a, some b => some (isLess a b)
    | _, _ => none

/-- Whether one list comes before another: the first difference decides, then the length. -/
def listComesBefore? : List Json → List Json → Option Bool
  | [], bs => some (!bs.isEmpty)
  | _ :: _, [] => some false
  | a :: as, b :: bs => if alike a b then listComesBefore? as bs else comesBefore? a b

end

/-- Whether one item of a list comes before another; a flag has no order as an item. -/
def itemComesBefore? : Json → Json → Option Bool
  | .bool _, _ | _, .bool _ => none
  | a, b => comesBefore? a b

/-! ### Putting in order -/

/-- The items that go on a run whose last item is `last`, and the others; `down` tells whether the
run is descending. -/
def splitRun? (down : Bool) (last : Json) : List Json → Option (List Json × List Json)
  | [] => some ([], [])
  | v :: vs => do
    if (← itemComesBefore? v last) == down then
      let (run, rest) ← splitRun? down v vs
      return (v :: run, rest)
    else return ([], v :: vs)

/-- The run at the start of a list, put in order, and the items behind it. -/
def firstRun? : List Json → Option (List Json × List Json)
  | a :: b :: vs => do
    let down ← itemComesBefore? b a
    let (run, rest) ← splitRun? down b vs
    let run := a :: b :: run
    return (if down then run.reverse else run, rest)
  | vs => some (vs, [])

/-- Where an item goes in a list that is in order, between two positions. -/
def positionFrom? (vs : List Json) (v : Json) (low high : Nat) : Option Nat :=
  if _ : low < high then
    let middle := low + (high - low) / 2
    match itemComesBefore? v (vs.getD middle .null) with
    | none => none
    | some true => positionFrom? vs v low middle
    | some false => positionFrom? vs v (middle + 1) high
  else some low
termination_by high - low

/-- A list that is in order with one more item. -/
def insertInOrder? (vs : List Json) (v : Json) : Option (List Json) :=
  (positionFrom? vs v 0 vs.length).map fun i => vs.take i ++ v :: vs.drop i

/-- The items of a list in order, if they have one. -/
def sorted? (items : List Json) : Option (List Json) := do
  let (run, rest) ← firstRun? items
  rest.foldlM insertInOrder? run

/-! ### Different values -/

/-- Whether no two items of a list are the same value. -/
def pairwiseDistinct : List Json → Bool
  | [] => true
  | v :: vs => !vs.any (same v) && pairwiseDistinct vs

/-- Whether no two neighbours of a list are the same value. -/
def neighboursDistinct : List Json → Bool
  | a :: b :: vs => !same a b && neighboursDistinct (b :: vs)
  | _ => true

/-- Whether the items of a list are different. -/
def allDistinct (items : List Json) : Bool :=
  match sorted? items with
  | some items => neighboursDistinct items
  | none => pairwiseDistinct items

end StructGen.Json
