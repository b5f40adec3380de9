import Parley.Text.Decimal

/-!
# Lengths of time

A `Span` counts nanoseconds. `Span.text` writes it in the largest unit of which it holds at least
one, with the decimals it needs and no zeros at their end.
-/

namespace Parley

structure Span where
  nanos : Nat
  deriving DecidableEq, Inhabited

namespace Span

def ofMillis (n : Nat) : Span := ⟨n * 1000000⟩

def ofSeconds (n : Nat) : Span := ⟨n * 1000000000⟩

/-- A number of units of ten to the `places` nanoseconds. -/
def inUnit (places : Nat) (nanos : Nat) : String :=
  let whole := toString (nanos / Text.powerOfTen places)
  let ds := (Text.toDigits 10 places (nanos % Text.powerOfTen places)).map Text.digitChar
  let ds := (ds.reverse.dropWhile (· = '0')).reverse
  if ds.isEmpty then whole else whole ++ "." ++ String.ofList ds

def text (d : Span) : String :=
  if Text.powerOfTen 9 ≤ d.nanos then inUnit 9 d.nanos ++ "s"
  else if Text.powerOfTen 6 ≤ d.nanos then inUnit 6 d.nanos ++ "ms"
  else if Text.powerOfTen 3 ≤ d.nanos then inUnit 3 d.nanos ++ "µs"
  else inUnit 0 d.nanos ++ "ns"

end Span

end Parley
