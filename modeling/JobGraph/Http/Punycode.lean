/-!
# Punycode

Labels of host names that are not ASCII are written in ASCII: first the ASCII characters, then
for each other character, in the order of their code points, how far its place and code point
lie from those before, in a numeral whose digits have bounds that adapt to the label.
-/

namespace JobGraph.Http.Punycode

/-- The digit of a value below 36. -/
def digit (value : Nat) : Char :=
  if value < 26 then Char.ofNat ('a'.toNat + value) else Char.ofNat ('0'.toNat + (value - 26))

/-- The bound of the digit that counts for `place`. -/
def threshold (place bias : Nat) : Nat :=
  if place ≤ bias then 1 else if bias + 26 ≤ place then 26 else place - bias

theorem threshold_pos (place bias : Nat) :
  0 < threshold place bias
  := by
  unfold threshold
  split <;> (try split) <;> omega

/-- The digits of a number, the last of which is below its bound. -/
def digits (bias place value : Nat) : List Char :=
  let bound := threshold place bias
  if value < bound then [digit value]
  else
    digit (bound + (value - bound) % (36 - bound)) ::
      digits bias (place + 36) ((value - bound) / (36 - bound))
termination_by value
decreasing_by
  have positive := threshold_pos place bias
  have shrinks := Nat.div_le_self (value - threshold place bias) (36 - threshold place bias)
  omega

/-- How often a number is divided by 35 until it is at most 455, times 36, and what is left. -/
def shrink (value steps : Nat) : Nat × Nat :=
  if 455 < value then shrink (value / 35) (steps + 36) else (value, steps)
termination_by value
decreasing_by omega

/-- The bias after a number was written. -/
def adapt (value written : Nat) (first : Bool) : Nat :=
  let value := if first then value / 700 else value / 2
  let (value, steps) := shrink (value + value / written) 0
  steps + 36 * value / (value + 38)

/-- The state between two characters. -/
structure State where
  output : List Char
  distance : Nat
  bias : Nat
  /-- How many characters are written. -/
  written : Nat

/-- Pass a character while those of the code point `code` are written. -/
def pass (basic code : Nat) (state : State) (c : Char) : State :=
  if c.toNat < code then { state with distance := state.distance + 1 }
  else if c.toNat = code then
    ⟨state.output ++ digits state.bias 36 state.distance, 0,
      adapt state.distance (state.written + 1) (state.written = basic), state.written + 1⟩
  else state

/-- Write the characters of each code point in turn. -/
def writeCodes (label : List Char) (basic : Nat) : Nat → List Nat → State → State
  | _, [], state => state
  | before, code :: codes, state =>
    let state := { state with
      distance := state.distance + (code - before) * (state.written + 1) }
    let state := label.foldl (pass basic code) state
    writeCodes label basic (code + 1) codes { state with distance := state.distance + 1 }

/-- The code points beyond ASCII, each once and in order. -/
def codesBeyond (label : List Char) : List Nat :=
  ((label.map Char.toNat).filter (128 ≤ ·)).eraseDups.mergeSort

/-- A label as it is, or in ASCII if it is not. -/
def encode (label : List Char) : List Char :=
  let basic := label.filter (·.toNat < 128)
  match codesBeyond label with
  | [] => label
  | codes =>
    let start := if basic.isEmpty then [] else basic ++ ['-']
    ['x', 'n', '-', '-'] ++
      (writeCodes label basic.length 128 codes ⟨start, 0, 72, basic.length⟩).output

end JobGraph.Http.Punycode
