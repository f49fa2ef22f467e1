import StructGen.Decimal.Shortest

/-!
# JSON values

Objects keep their entries in the order written, and integers are told apart from numbers written
with a point or an exponent.

* `Json.truthy` says which values count as given: all but null, false, zero and the empty ones;
* `Json.same` is equality of values: `1` and `1.0` are the same, objects compare by key;
* `putEntry` and `updateEntries` replace a value in place and add new keys at the end.
-/

namespace StructGen

/-- A JSON value. -/
inductive Json where
  | null
  | bool (b : Bool)
  | int (n : Int)
  | float (x : Float)
  | str (s : String)
  | arr (items : List Json)
  | obj (entries : List (String × Json))
  deriving Inhabited, Repr

/-- The entries of an object, in order. -/
abbrev Entries := List (String × Json)

namespace Json

/-! ### Equality of representations -/

mutual

/-- Whether two values are written the same way. -/
def decEq : (a b : Json) → Decidable (a = b)
  | .null, .null => isTrue rfl
  | .bool a, .bool b => decidable_of_iff (a = b) (by simp)
  | .int a, .int b => decidable_of_iff (a = b) (by simp)
  | .float a, .float b => decidable_of_iff (a = b) (by simp)
  | .str a, .str b => decidable_of_iff (a = b) (by simp)
  | .arr as, .arr bs =>
    match decEqList as bs with
    | isTrue h => isTrue (by rw [h])
    | isFalse h => isFalse (by simpa using h)
  | .obj as, .obj bs =>
    match decEqEntries as bs with
    | isTrue h => isTrue (by rw [h])
    | isFalse h => isFalse (by simpa using h)
  | .null, .bool _ | .null, .int _ | .null, .float _ | .null, .str _ | .null, .arr _
  | .null, .obj _ | .bool _, .null | .bool _, .int _ | .bool _, .float _ | .bool _, .str _
  | .bool _, .arr _ | .bool _, .obj _ | .int _, .null | .int _, .bool _ | .int _, .float _
  | .int _, .str _ | .int _, .arr _ | .int _, .obj _ | .float _, .null | .float _, .bool _
  | .float _, .int _ | .float _, .str _ | .float _, .arr _ | .float _, .obj _ | .str _, .null
  | .str _, .bool _ | .str _, .int _ | .str _, .float _ | .str _, .arr _ | .str _, .obj _
  | .arr _, .null | .arr _, .bool _ | .arr _, .int _ | .arr _, .float _ | .arr _, .str _
  | .arr _, .obj _ | .obj _, .null | .obj _, .bool _ | .obj _, .int _ | .obj _, .float _
  | .obj _, .str _ | .obj _, .arr _ => isFalse (by simp)

/-- Whether two lists of values are written the same way. -/
def decEqList : (as bs : List Json) → Decidable (as = bs)
  | [], [] => isTrue rfl
  | [], _ :: _ | _ :: _, [] => isFalse (by simp)
  | a :: as, b :: bs =>
    match decEq a b, decEqList as bs with
    | isTrue h, isTrue hs => isTrue (by rw [h, hs])
    | isFalse h, _ => isFalse (by simp [h])
    | _, isFalse hs => isFalse (by simp [hs])

/-- Whether two lists of entries are written the same way. -/
def decEqEntries : (as bs : List (String × Json)) → Decidable (as = bs)
  | [], [] => isTrue rfl
  | [], _ :: _ | _ :: _, [] => isFalse (by simp)
  | (k, a) :: as, (l, b) :: bs =>
    if hk : k = l then
      match decEq a b, decEqEntries as bs with
      | isTrue h, isTrue hs => isTrue (by rw [hk, h, hs])
      | isFalse h, _ => isFalse (by simp [h])
      | _, isFalse hs => isFalse (by simp [hs])
    else isFalse (by simp [hk])

end

instance : DecidableEq Json := decEq

/-! ### Size -/

mutual

/-- The number of values inside a value, itself included. -/
def size : Json → Nat
  | .arr items => 1 + sizeList items
  | .obj entries => 1 + sizeEntries entries
  | _ => 1

/-- The number of values inside a list. -/
def sizeList : List Json → Nat
  | [] => 0
  | v :: vs => v.size + sizeList vs

/-- The number of values inside the entries of an object. -/
def sizeEntries : List (String × Json) → Nat
  | [] => 0
  | (_, v) :: es => v.size + sizeEntries es

end

/-! ### Views -/

/-- Whether a value counts as given: all but null, false, zero and the empty ones do. -/
def truthy : Json → Bool
  | .null => false
  | .bool b => b
  | .int n => n != 0
  | .float x => !(x == 0)
  | .str s => !s.isEmpty
  | .arr items => !items.isEmpty
  | .obj entries => !entries.isEmpty

/-- The value of a key, if the value is an object that has it. -/
def get? : Json → String → Option Json
  | .obj entries, key => entries.lookup key
  | _, _ => none

/-- The text, if the value is one. -/
def str? : Json → Option String
  | .str s => some s
  | _ => none

/-- The elements of a value that can be listed: the items of an array, the keys of an object, the
characters of a text. -/
def elements? : Json → Option (List Json)
  | .arr items => some items
  | .obj entries => some (entries.map fun e => .str e.1)
  | .str s => some (s.toList.map fun c => .str (String.singleton c))
  | _ => none

/-- Whether a value is compound, an array or an object. -/
def isCompound : Json → Bool
  | .arr _ | .obj _ => true
  | _ => false

/-! ### Equality of values -/

/-- Whether a double is exactly an integer. -/
def floatIsInt (x : Float) (n : Int) : Bool :=
  match Binary.ofFloat? x with
  | none => x == 0 && n == 0
  | some b =>
    let magnitude := b.mantissa * Nat.pow 2 b.exponent.toNat
    (x < 0) == (n < 0) && n.natAbs * Nat.pow 2 (-b.exponent).toNat == magnitude

mutual

/-- Equality of values: numbers by their value, what is no number being equal to itself, objects by
key whatever the order, and nothing else across kinds. -/
def same : Json → Json → Bool
  | .null, .null => true
  | .bool a, .bool b => a == b
  | .int a, .int b => a == b
  | .int a, .float b => floatIsInt b a
  | .float a, .int b => floatIsInt a b
  | .float a, .float b => a == b || (a.isNaN && b.isNaN)
  | .str a, .str b => a == b
  | .arr as, .arr bs => sameList as bs
  | .obj as, .obj bs => as.length == bs.length && sameEntries as bs
  | _, _ => false

/-- Equality of lists, item by item. -/
def sameList : List Json → List Json → Bool
  | [], [] => true
  | a :: as, b :: bs => same a b && sameList as bs
  | _, _ => false

/-- Whether every entry has an equal value under the same key in `bs`. -/
def sameEntries : List (String × Json) → List (String × Json) → Bool
  | [], _ => true
  | (k, a) :: as, bs =>
    (match bs.lookup k with
      | some b => same a b
      | none => false) && sameEntries as bs

end

end Json

/-! ### Entries -/

/-- Put a value under a key: in place when the key is there, at the end otherwise. -/
def putEntry {α : Type} (key : String) (value : α) : List (String × α) → List (String × α)
  | [] => [(key, value)]
  | (k, v) :: es => if k = key then (k, value) :: es else (k, v) :: putEntry key value es

/-- Put all entries of `new` into `old`. -/
def updateEntries {α : Type} (old new : List (String × α)) : List (String × α) :=
  new.foldl (fun es (k, v) => putEntry k v es) old

@[simp] theorem updateEntries_nil {α : Type} (old : List (String × α)) :
    updateEntries old [] = old := rfl

theorem updateEntries_cons {α : Type} (old new : List (String × α)) (k : String) (v : α) :
    updateEntries old ((k, v) :: new) = updateEntries (putEntry k v old) new := rfl

theorem lookup_putEntry {α : Type} (key k : String) (v : α) (es : List (String × α)) :
    (putEntry key v es).lookup k = if k = key then some v else es.lookup k := by
  induction es with
  | nil => grind [putEntry]
  | cons e es ih => grind [putEntry]

end StructGen
