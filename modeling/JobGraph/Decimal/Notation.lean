import JobGraph.Decimal.Shortest

/-!
# Notations for floating-point numbers

A notation says which numbers are written positionally, whether a whole number keeps a
point, and how an exponent looks. `Notation.json` is the notation of numbers in JSON texts,
`Notation.plain` the one of durations in messages.
-/

namespace JobGraph

/-- The decisions a format of floating-point numbers makes. -/
structure Notation where
  /-- The powers of ten of the first digit for which a number is written positionally. -/
  positional : Int → Bool
  /-- A whole number written positionally ends in `.0`. -/
  keepsPoint : Bool
  /-- The text in front of an exponent that is not negative. -/
  exponentMark : String

namespace Notation

/-- Numbers from `10 ^ -5` to below `10 ^ 16` are written positionally and with a point;
others with an exponent that has a sign. -/
def json : Notation where
  positional := fun e => -5 ≤ e && e ≤ 15
  keepsPoint := true
  exponentMark := "e+"

/-- Every number is written positionally, a whole one without a point. -/
def plain : Notation where
  positional := fun _ => true
  keepsPoint := false
  exponentMark := "e"

/-- The digits with the point behind the first `whole` of them. -/
def placePoint (keepsPoint : Bool) (digits : List Char) (whole : Int) : List Char :=
  if whole ≤ 0 then '0' :: '.' :: List.replicate (-whole).toNat '0' ++ digits
  else if digits.length ≤ whole.toNat then
    digits ++ List.replicate (whole.toNat - digits.length) '0'
      ++ (if keepsPoint then ['.', '0'] else [])
  else digits.take whole.toNat ++ '.' :: digits.drop whole.toNat

/-- A positive decimal in the notation. -/
def writeDecimal (n : Notation) (d : Decimal) : String :=
  let digits := d.digitChars
  let leading := d.leadingExponent
  if d.digits = 0 then if n.keepsPoint then "0.0" else "0"
  else if n.positional leading then
    String.ofList (placePoint n.keepsPoint digits (leading + 1))
  else
    let body :=
      match digits with
      | [] => []
      | [c] => [c]
      | c :: rest => c :: '.' :: rest
    String.ofList body
      ++ (if leading < 0 then "e" else n.exponentMark) ++ toString leading

/-- A finite float in the notation, the sign of zero kept. -/
def write (n : Notation) (x : Float) : String :=
  let negative := x.toBits.toNat / Nat.pow 2 63 = 1
  (if negative then "-" else "") ++ n.writeDecimal (Decimal.shortest (.ofFloat x))

end Notation

end JobGraph
