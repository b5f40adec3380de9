import Parley.Text.Decimal

/-!
# Numerals and the numbers they denote

A numeral denotes a binary floating point number with 53 digits, made from as many of its decimal
digits as 64 bits hold, times a power of ten. `Numeral.isTooLarge` says that there is none, because
the product lies beyond the largest such number.
-/

namespace Parley.Json

/-- Digits of a numeral as one number, and the power of ten that belongs to it. -/
structure Numeral where
  digits : Nat := 0
  exponent : Int := 0

namespace Numeral

/-- The nearest number with at most 53 binary digits before its zeros; of two, the even one. -/
def nearest (n : Nat) : Nat :=
  let zeros := n.log2 - 52
  let unit := 1 <<< zeros
  let below := n / unit
  let rest := n % unit
  (if unit < 2 * rest || (unit = 2 * rest && below % 2 = 1) then below + 1 else below) <<< zeros

/-- Takes digits as long as the number fits 64 bits. Each one taken changes the exponent by `taken`,
each one left out by `dropped`. -/
def takeDigits (taken dropped : Int) (x : Numeral) : List Char → Numeral
  | [] => x
  | c :: cs =>
    let digits := x.digits * 10 + (Text.digit? c).getD 0
    if digits ≤ Text.largestWord then
      takeDigits taken dropped ⟨digits, x.exponent + taken⟩ cs
    else ⟨x.digits, x.exponent + dropped * ((cs.length : Int) + 1)⟩

def number (ds : List Char) : Nat := Text.ofDigits 10 (ds.filterMap Text.digit?)

/-- The power of ten that a numeral names at its end. -/
def power (cs : List Char) : Int :=
  match cs.dropWhile fun c => c ≠ 'e' && c ≠ 'E' with
  | _ :: '-' :: ds => -(number ds : Int)
  | _ :: ds => number ds
  | [] => 0

/-- What a written numeral stands for, its sign apart. -/
def ofChars (cs : List Char) : Numeral :=
  let cs := cs.dropWhile (· = '-')
  let rest := cs.dropWhile Text.isDigit
  let fraction := if rest.head? = some '.' then (rest.drop 1).takeWhile Text.isDigit else []
  let x := takeDigits (-1) 0 (takeDigits 0 1 {} (cs.takeWhile Text.isDigit)) fraction
  { x with exponent := x.exponent + power rest }

/-- The powers of ten that are numbers themselves. -/
def largestPower : Nat := 308

/-- Half a step beyond the largest number, from where on there is no nearest one. -/
def limit : Nat := (1 <<< 1024) - (1 <<< 970)

def isTooLarge (x : Numeral) : Bool :=
  match x.exponent with
  | .ofNat e =>
    x.digits ≠ 0 && (largestPower < e || limit ≤ nearest x.digits * nearest (Text.powerOfTen e))
  | .negSucc _ => false

end Numeral

end Parley.Json
