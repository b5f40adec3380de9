/-!
# Whole numbers in text

Reading of digits in a given base with an upper bound, and the fixed-width digits used by
identifiers and times.
-/

namespace Parley.Text

def digit? (c : Char) : Option Nat :=
  if '0' ≤ c && c ≤ '9' then some (c.toNat - '0'.toNat) else none

def isDigit (c : Char) : Bool := (digit? c).isSome

def hexDigit? (c : Char) : Option Nat :=
  if '0' ≤ c && c ≤ '9' then some (c.toNat - '0'.toNat)
  else if 'a' ≤ c && c ≤ 'f' then some (c.toNat - 'a'.toNat + 10)
  else if 'A' ≤ c && c ≤ 'F' then some (c.toNat - 'A'.toNat + 10)
  else none

def digitChar (d : Nat) : Char :=
  if d < 10 then Char.ofNat ('0'.toNat + d) else Char.ofNat ('a'.toNat + (d - 10))

/-- The value of digits in a base, most significant first. -/
def ofDigits (base : Nat) (ds : List Nat) : Nat := ds.foldl (fun n d => n * base + d) 0

/-- The last `width` digits of a number, most significant first. -/
def toDigits (base : Nat) : (width : Nat) → Nat → List Nat
  | 0, _ => []
  | w + 1, n => toDigits base w (n / base) ++ [n % base]

/-- A one with zeros behind it. -/
def powerOfTen : (zeros : Nat) → Nat
  | 0 => 1
  | n + 1 => 10 * powerOfTen n

/-- The largest number of 64 bits. -/
def largestWord : Nat := 0xffffffffffffffff

/-- A decimal number of at most `limit`, made of digits only. -/
def decimal? (limit : Nat) (cs : List Char) : Option Nat := do
  let ds ← cs.mapM digit?
  if ds.isEmpty then none else
    let n := ofDigits 10 ds
    if n ≤ limit then some n else none

/-- A decimal number that may start with a plus sign. -/
def unsigned? (limit : Nat) : List Char → Option Nat
  | '+' :: cs => decimal? limit cs
  | cs => decimal? limit cs

/-- A number with at least `width` digits, zeros in front. -/
def padded (width n : Nat) : String :=
  let s := toString n
  String.ofList (List.replicate (width - s.length) '0') ++ s

def hexText (n : Nat) : String := String.ofList (Nat.toDigits 16 n)

end Parley.Text
