/-!
# Shortest decimals

A positive binary fraction `mantissa * 2 ^ exponent` of a floating-point format stands for
every real that rounds to it. `Decimal.shortest` is the decimal with the fewest digits among
those reals, and of the decimals with that many digits the one nearest to the fraction; of
two that are equally near it is the even one.
-/

namespace JobGraph

/-- The number `digits * 10 ^ exponent`. -/
structure Decimal where
  digits : Nat
  exponent : Int
deriving DecidableEq, Repr

/-- A positive floating-point number `mantissa * 2 ^ exponent`. The flag `narrowBelow` says
that the next smaller number is at half the distance of the next larger one. -/
structure BinaryFraction where
  mantissa : Nat
  exponent : Int
  narrowBelow : Bool
deriving DecidableEq, Repr

namespace BinaryFraction

/-- The fraction that the magnitude of a finite float stands for. -/
def ofFloat (x : Float) : BinaryFraction :=
  let bits := x.toBits.toNat
  let fraction : Nat := bits % Nat.pow 2 52
  let biased : Nat := bits / Nat.pow 2 52 % Nat.pow 2 11
  if biased = 0 then ⟨fraction, -1074, false⟩
  else ⟨fraction + Nat.pow 2 52, (biased : Int) - 1075, fraction == 0 && 1 < biased⟩

/-- The factors that bring quarters of the last place of the fraction and multiples of
`10 ^ place` to one scale. -/
def scales (x : BinaryFraction) (place : Int) : Nat × Nat :=
  let quarter := x.exponent - 2
  (Nat.pow 2 quarter.toNat * Nat.pow 10 (-place).toNat,
    Nat.pow 10 place.toNat * Nat.pow 2 (-quarter).toNat)

/-- Whether `count * 10 ^ place` rounds to the fraction. The ends of the interval belong to
it when the mantissa is even. -/
def covers (x : BinaryFraction) (place : Int) (count : Nat) : Bool :=
  let (own, grid) := x.scales place
  let low := (4 * x.mantissa - if x.narrowBelow then 1 else 2) * own
  let high := (4 * x.mantissa + 2) * own
  if x.mantissa % 2 = 0 then low ≤ count * grid && count * grid ≤ high
  else low < count * grid && count * grid < high

/-- The multiple of `10 ^ place` next to the fraction that rounds to it: the nearer of the
two neighbours, and of equally near ones the even one. -/
def onGrid (x : BinaryFraction) (place : Int) : Option Nat :=
  let (own, grid) := x.scales place
  let value := 4 * x.mantissa * own
  let below := value / grid
  let above := below + 1
  match x.covers place below && below != 0, x.covers place above with
  | true, true =>
    let down := value - below * grid
    let up := above * grid - value
    if down < up then some below
    else if up < down then some above
    else if below % 2 = 0 then some below else some above
  | true, false => some below
  | false, true => some above
  | false, false => none

/-- The exponent `e` of the decade `10 ^ e ≤ x < 10 ^ (e + 1)` that holds the fraction. -/
def decade (x : BinaryFraction) : Int :=
  let guess := ((x.mantissa.log2 : Int) + x.exponent) * 30103 / 100000
  let (own, grid) := x.scales (guess + 1)
  if grid ≤ 4 * x.mantissa * own then guess + 1
  else
    let (own, grid) := x.scales guess
    if grid ≤ 4 * x.mantissa * own then guess else guess - 1

end BinaryFraction

namespace Decimal

/-- Take zeros off the end of `digits`, at most `fuel` of them. -/
def stripZeros : Nat → Nat → Int → Decimal
  | 0, digits, exponent => ⟨digits, exponent⟩
  | fuel + 1, digits, exponent =>
    if digits % 10 = 0 ∧ digits ≠ 0 then stripZeros fuel (digits / 10) (exponent + 1)
    else ⟨digits, exponent⟩

/-- The first hit on the grids with `count`, `count + 1`, … digits, of which there are
`fuel`. -/
def firstHit (x : BinaryFraction) (decade : Int) : Nat → Nat → Option Decimal
  | 0, _ => none
  | fuel + 1, count =>
    let place := decade - (count : Int) + 1
    match x.onGrid place with
    | some digits => some (stripZeros 20 digits place)
    | none => firstHit x decade fuel (count + 1)

/-- The shortest decimal of a positive fraction. Seventeen digits always suffice for a
mantissa of fifty-three bits. -/
def shortest (x : BinaryFraction) : Decimal :=
  if x.mantissa = 0 then ⟨0, 0⟩
  else (firstHit x x.decade 17 1).getD ⟨0, 0⟩

/-- The digits of the decimal, first to last. -/
def digitChars (d : Decimal) : List Char :=
  Nat.toDigits 10 d.digits

/-- The power of ten of the first digit. -/
def leadingExponent (d : Decimal) : Int :=
  d.exponent + (d.digitChars.length : Int) - 1

end Decimal

end JobGraph
