/-!
# Shortest decimals of binary numbers

A finite double is a natural number times a power of two. Its shortest decimal is the one with the
fewest digits among the decimals that round to it, and the nearest of those.

* `Binary.ofFloat?` takes a double apart;
* `Binary.shortest` finds the shortest decimal by exact arithmetic;
* `floatText` writes a double: positionally when the decimal exponent is from -4 to 15, with a
  signed exponent of at least two digits otherwise.
-/

namespace StructGen

/-- The positive number `mantissa · 2 ^ exponent`, a double. -/
structure Binary where
  mantissa : Nat
  exponent : Int
  /-- Whether the gap to the next smaller double is half the gap to the next greater one. -/
  narrowBelow : Bool
  deriving DecidableEq, Repr

/-- The number `digits · 10 ^ exponent`. -/
structure Decimal where
  digits : Nat
  exponent : Int
  deriving DecidableEq, Repr

namespace Decimal

/-- The same number without trailing zeros among its digits; `fuel` bounds their number. -/
def trimFrom : Nat → Decimal → Decimal
  | 0, d => d
  | fuel + 1, d =>
    if d.digits % 10 = 0 then trimFrom fuel ⟨d.digits / 10, d.exponent + 1⟩ else d

/-- The same number without trailing zeros among its digits. -/
def trim (d : Decimal) : Decimal := trimFrom 20 d

end Decimal

/-- The quotient `num · 2 ^ two / 10 ^ ten` as a pair of natural numbers. -/
def ratio (num : Nat) (two ten : Int) : Nat × Nat :=
  (num * Nat.pow 2 two.toNat * Nat.pow 10 (-ten).toNat,
    Nat.pow 2 (-two).toNat * Nat.pow 10 ten.toNat)

namespace Binary

/-- The magnitude of a double, unless it is zero, infinite or no number. -/
def ofFloat? (x : Float) : Option Binary :=
  let bits := x.toBits.toNat
  let biased : Nat := bits / Nat.pow 2 52 % Nat.pow 2 11
  let fraction : Nat := bits % Nat.pow 2 52
  if biased = Nat.pow 2 11 - 1 then none
  else if biased = 0 then
    if fraction = 0 then none else some ⟨fraction, -1074, false⟩
  else some ⟨Nat.pow 2 52 + fraction, (biased : Int) - 1075, fraction = 0 && biased > 1⟩

/-- Whether `10 ^ e` is at most the number. -/
def atLeastPow (b : Binary) (e : Int) : Bool :=
  let (num, den) := ratio b.mantissa b.exponent e
  den ≤ num

/-- The exponent of the greatest power of ten that is at most the number. -/
def decimalExponent (b : Binary) : Int :=
  let guess := ((b.mantissa.log2 : Int) + b.exponent) * 30103 / 100000
  if b.atLeastPow (guess + 1) then guess + 1 else if b.atLeastPow guess then guess else guess - 1

/-- Whether `d · 10 ^ k` rounds to the number: it lies between the middles of the two gaps, which
belong to the number when its mantissa is even. -/
def roundsFrom (b : Binary) (d : Nat) (k : Int) : Bool :=
  let (unit, den) := ratio 1 (b.exponent - 2) k
  let upper := (4 * b.mantissa + 2) * unit
  let lower := (4 * b.mantissa - if b.narrowBelow then 1 else 2) * unit
  let point := d * den
  if b.mantissa % 2 = 0 then lower ≤ point && point ≤ upper else lower < point && point < upper

/-- The decimal with unit `10 ^ k` that rounds to the number, the nearer of the two neighbours and
the even one when both are as near. -/
def onGrid? (b : Binary) (k : Int) : Option Decimal :=
  let (num, den) := ratio b.mantissa b.exponent k
  let below := num / den
  let rest := num % den
  let nearest :=
    if 2 * rest < den || (2 * rest == den && below % 2 == 0) then below else below + 1
  if b.roundsFrom nearest k then some ⟨nearest, k⟩
  else if b.roundsFrom below k then some ⟨below, k⟩
  else if b.roundsFrom (below + 1) k then some ⟨below + 1, k⟩
  else none

/-- The shortest decimal with at least `17 - more` digits. -/
def shortestFrom (b : Binary) (e : Int) : Nat → Decimal
  | 0 => (b.onGrid? (e - 16)).getD ⟨0, 0⟩
  | more + 1 =>
    match b.onGrid? (e - (15 - (more : Int))) with
    | some d => d
    | none => shortestFrom b e more

/-- The shortest decimal that rounds to the number. -/
def shortest (b : Binary) : Decimal := (b.shortestFrom b.decimalExponent 16).trim

end Binary

/-- Digits with the point `places` digits from the left, one digit at least on either side. -/
def positional (digits : List Char) (places : Int) : List Char :=
  if places ≤ 0 then '0' :: '.' :: List.replicate (-places).toNat '0' ++ digits
  else
    let whole := digits.take places.toNat
    let rest := digits.drop places.toNat
    whole ++ List.replicate (places.toNat - whole.length) '0' ++ '.' ::
      (if rest.isEmpty then ['0'] else rest)

/-- Digits with the point after the first of them, and a power of ten. -/
def scientific (digits : List Char) (exponent : Int) : List Char :=
  let magnitude := Nat.toDigits 10 exponent.natAbs
  digits.take 1 ++ (if digits.length > 1 then '.' :: digits.drop 1 else []) ++
    ['e', if exponent < 0 then '-' else '+'] ++
    List.replicate (2 - magnitude.length) '0' ++ magnitude

/-- The text of a decimal. -/
def Decimal.text (d : Decimal) : List Char :=
  let digits := Nat.toDigits 10 d.digits
  let exponent := d.exponent + digits.length - 1
  if -4 ≤ exponent && exponent < 16 then positional digits (exponent + 1)
  else scientific digits exponent

/-- The text of a double: the fewest digits that read back, `inf` and `nan`. -/
def floatText (x : Float) : String :=
  let sign := if x.toBits.toNat / Nat.pow 2 63 = 1 && !x.isNaN then "-" else ""
  let magnitude :=
    if x.isNaN then "nan"
    else if x.isInf then "inf"
    else match Binary.ofFloat? x with
      | none => "0.0"
      | some b => String.ofList b.shortest.text
  sign ++ magnitude

end StructGen
