import JobGraph.Decimal.Numeral
import JobGraph.Json.Draft

/-!
# What plain scalars mean

A plain scalar whose type nothing else tells is null, a truth value, an integer, a float or
text, depending on how it looks. An integer may be decimal, or hexadecimal, octal or binary
with `0x`, `0o` or `0b` in front; a decimal one with a zero in front is text.
-/

namespace JobGraph.Yaml

open Json

/-- The words for null. -/
def isNullWord (text : String) : Bool :=
  text = "null" || text = "Null" || text = "NULL" || text = "~"

/-- The truth value of a word. -/
def flag? (text : String) : Option Bool :=
  if text = "true" ∨ text = "True" ∨ text = "TRUE" then some true
  else if text = "false" ∨ text = "False" ∨ text = "FALSE" then some false
  else none

/-- A text without one sign in front of it. -/
def dropSign : List Char → List Char
  | '-' :: cs => cs
  | '+' :: cs => cs
  | cs => cs

/-- Digits that are not a number: there is a zero in front of others. -/
def isZeroLed (cs : List Char) : Bool :=
  match dropSign cs with
  | '0' :: c :: rest => (c :: rest).all Char.isDigit
  | _ => false

/-- The value of digits to a base of at most sixteen. -/
def digits? (base : Nat) (cs : List Char) : Option Nat :=
  if cs.isEmpty then none
  else
    (cs.mapM Draft.hexValue?).bind fun values =>
      if values.all (· < base) then some (values.foldl (fun n d => base * n + d) 0) else none

/-- The size of an integer written without a sign. -/
def magnitude? : List Char → Option Nat
  | '0' :: 'x' :: cs => digits? 16 cs
  | '0' :: 'o' :: cs => digits? 8 cs
  | '0' :: 'b' :: cs => digits? 2 cs
  | cs => if isZeroLed cs then none else digits? 10 cs

/-- The integer that a scalar is. -/
def integer? : List Char → Option Int
  | '-' :: cs => (magnitude? cs).map fun n => -(n : Int)
  | '+' :: cs => (magnitude? cs).map fun n => (n : Int)
  | cs => (magnitude? cs).map fun n => (n : Int)

/-- An integer of 64 bits. -/
def isWord (i : Int) : Bool :=
  -(Nat.pow 2 63 : Int) ≤ i && i < (Nat.pow 2 64 : Int)

/-- An integer of 128 bits. -/
def isDoubleWord (i : Int) : Bool :=
  -(Nat.pow 2 127 : Int) ≤ i && i < (Nat.pow 2 128 : Int)

/-- The float that a scalar is, null for one that is not finite. -/
def float? (cs : List Char) : Option Value :=
  let unsigned := match cs with
    | '+' :: cs => cs
    | cs => cs
  let names (words : List String) (cs : List Char) : Bool := words.any (·.toList = cs)
  if names [".inf", ".Inf", ".INF"] unsigned || names ["-.inf", "-.Inf", "-.INF"] cs
      || names [".nan", ".NaN", ".NAN"] cs then
    some .null
  else if unsigned ≠ cs ∧ dropSign unsigned ≠ unsigned then none
  else
    match floatOfNumeral? (String.ofList unsigned) with
    | some x => if x.isFinite then some (.number (.float x)) else none
    | none => none

/-- The value of the number that a scalar is. The inner result is absent for an integer of
more than 64 bits, unless it has more than 128, when it counts as a float. -/
def number? (text : String) : Option (Option Value) :=
  let cs := text.toList
  let float := if isZeroLed cs then none else (float? cs).map some
  match integer? cs with
  | some i =>
    if isWord i then some (some (.number (.int i)))
    else if isDoubleWord i then some none
    else float
  | none => float

/-- The value of a plain scalar. It is absent for an integer of more than 64 bits. -/
def plainValue? (text : String) : Option Value :=
  if text = "" || isNullWord text then some .null
  else
    match flag? text with
    | some b => some (.bool b)
    | none => (number? text).getD (some (.string text))

end JobGraph.Yaml
