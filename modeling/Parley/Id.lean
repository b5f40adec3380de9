import Parley.Text.Decimal

/-!
# Identifiers

Records are named by 128 bits, written as 32 hexadecimal digits in groups of 8, 4, 4, 4 and 12.
`Id.parse?` also takes the digits without hyphens, the hyphenated form in braces, and the same form
as a URN, whose first nine characters may be of either case.
-/

namespace Parley

structure Id where
  bits : BitVec 128
  deriving DecidableEq, Inhabited

namespace Id

def ofNat (n : Nat) : Id := ⟨BitVec.ofNat 128 n⟩

def digits (i : Id) : List Char := (Text.toDigits 16 32 i.bits.toNat).map Text.digitChar

/-- Digits with hyphens between their groups. -/
def hyphenate (ds : List Char) : List Char :=
  ds.take 8 ++ '-' :: (ds.drop 8).take 4 ++ '-' :: (ds.drop 12).take 4 ++
    '-' :: (ds.drop 16).take 4 ++ '-' :: ds.drop 20

def text (i : Id) : String := String.ofList (hyphenate i.digits)

def ofDigits? (cs : List Char) : Option Id := do
  let ds ← cs.mapM Text.hexDigit?
  if ds.length = 32 then some (ofNat (Text.ofDigits 16 ds)) else none

/-- The hyphenated form, with all four hyphens in their places. -/
def ofHyphenated? (cs : List Char) : Option Id :=
  let ds := cs.filter (· ≠ '-')
  if cs = hyphenate ds then ofDigits? ds else none

def ofChars? (cs : List Char) : Option Id :=
  match cs.length with
  | 32 => ofDigits? cs
  | 36 => ofHyphenated? cs
  | 38 =>
    if cs.head? = some '\x7b' ∧ cs.getLast? = some '\x7d' then ofHyphenated? (cs.drop 1).dropLast
    else none
  | 45 =>
    if (cs.take 9).map Char.toLower = "urn:uuid:".toList then ofHyphenated? (cs.drop 9) else none
  | _ => none

def parse? (s : String) : Option Id := ofChars? s.toList

end Id

end Parley
