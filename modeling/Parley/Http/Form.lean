import Parley.Text.Decimal
import Parley.Text.Utf8

/-!
# Forms

A form is a list of named texts, written with `&` between fields and `=` after a name. `Form.decode`
reads any bytes as a form: what is not text gets replacement characters, and empty fields are passed
over. `Form.encode` writes a form so that it reads back.
-/

namespace Parley.Http

open Text

namespace Percent

def hexByte? (a b : UInt8) : Option UInt8 := do
  let high ← hexDigit? (Char.ofNat a.toNat)
  let low ← hexDigit? (Char.ofNat b.toNat)
  return UInt8.ofNat (high * 16 + low)

/-- Puts a byte in place of each percent sign with two hexadecimal digits. -/
def decode : List UInt8 → List UInt8
  | [] => []
  | 37 :: a :: b :: rest =>
    match hexByte? a b with
    | some byte => byte :: decode rest
    | none => 37 :: decode (a :: b :: rest)
  | b :: rest => b :: decode rest

def upperDigit (n : Nat) : Char := Char.toUpper (digitChar n)

def encodeByte (b : UInt8) : List Char :=
  ['%', upperDigit (b.toNat / 16), upperDigit (b.toNat % 16)]

end Percent

namespace Form

/-- The parts between separators. -/
def splitOn (separator : UInt8) : List UInt8 → List (List UInt8)
  | [] => [[]]
  | b :: bs =>
    if b = separator then [] :: splitOn separator bs
    else match splitOn separator bs with
      | [] => [[b]]
      | part :: parts => (b :: part) :: parts

def plusToSpace (b : UInt8) : UInt8 := if b = 43 then 32 else b

def decodePart (bs : List UInt8) : String :=
  Utf8.toStringLossy (Percent.decode (bs.map plusToSpace))

def decodeField (bs : List UInt8) : String × String :=
  (decodePart (bs.takeWhile (· ≠ 61)), decodePart ((bs.dropWhile (· ≠ 61)).drop 1))

def decode (bs : List UInt8) : List (String × String) :=
  ((splitOn 38 bs).filter (!·.isEmpty)).map decodeField

/-- Bytes that are written as they are. -/
def isPlain (b : UInt8) : Bool :=
  b = 42 || b = 45 || b = 46 || b = 95 || (48 ≤ b && b ≤ 57) || (65 ≤ b && b ≤ 90) ||
    (97 ≤ b && b ≤ 122)

def encodeByte (b : UInt8) : List Char :=
  if b = 32 then ['+'] else if isPlain b then [Char.ofNat b.toNat] else Percent.encodeByte b

def encodePart (s : String) : List Char := (Utf8.ofString s).flatMap encodeByte

def encodeField (f : String × String) : List Char := encodePart f.1 ++ '=' :: encodePart f.2

def encode (fields : List (String × String)) : String :=
  String.ofList (List.intercalate ['&'] (fields.map encodeField))

/-- None of the names comes twice. -/
def isSingle (names : List String) (fields : List (String × String)) : Bool :=
  names.all fun name => fields.countP (·.1 = name) ≤ 1

end Form

end Parley.Http
