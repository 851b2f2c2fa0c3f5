import JobGraph.Decimal.Notation

/-!
# Durations

A duration is a number of nanoseconds. It is shown in seconds, as the float nearest to the
whole seconds and the float nearest to the rest added up.
-/

namespace JobGraph

/-- A length of time. -/
structure Duration where
  nanoseconds : Nat
deriving DecidableEq, Repr

namespace Duration

/-- No time. -/
def zero : Duration := ⟨0⟩

/-- A number of milliseconds. -/
def ofMilliseconds (n : Nat) : Duration := ⟨n * 1000000⟩

/-- A number of seconds. -/
def ofSeconds (n : Nat) : Duration := ⟨n * 1000000000⟩

/-- The whole seconds of a duration. -/
def seconds (d : Duration) : Nat :=
  d.nanoseconds / 1000000000

/-- The duration in seconds. -/
def text (d : Duration) : String :=
  Notation.plain.write (Float.ofNat d.seconds + Float.ofNat (d.nanoseconds % 1000000000) / 1e9)

end Duration

end JobGraph
