import Parley.Json.Basic
import Parley.Json.Numeral

/-!
# Reading JSON

`read` makes a value of any text: if the text is not JSON, the value is what stands in front of the
defect, with `torn` at its place. `parse?` accepts exactly one value with blanks around it.
-/

namespace Parley.Json

def isGap (c : Char) : Bool := c = ' ' || c = '\n' || c = '\t' || c = '\r'

def skip (cs : List Char) : List Char := cs.dropWhile isGap

/-- The outcome of reading a string literal, with what follows its closing quote. -/
inductive Literal
  | text (s : String) (rest : List Char)
  | garbled (rest : List Char)
  | torn

def hex4? (a b c d : Char) : Option Nat := do
  let a ← Text.hexDigit? a
  let b ← Text.hexDigit? b
  let c ← Text.hexDigit? c
  let d ← Text.hexDigit? d
  some (a * 4096 + b * 256 + c * 16 + d)

def isHigh (n : Nat) : Bool := 0xd800 ≤ n && n ≤ 0xdbff

def isLow (n : Nat) : Bool := 0xdc00 ≤ n && n ≤ 0xdfff

def joinSurrogates (high low : Nat) : Char :=
  Char.ofNat (0x10000 + (high - 0xd800) * 0x400 + (low - 0xdc00))

/-- The characters written with a backslash and one letter. -/
def shortEscape? : Char → Option Char
  | '"' => some '"'
  | '\\' => some '\\'
  | '/' => some '/'
  | 'b' => some '\x08'
  | 'f' => some '\x0c'
  | 'n' => some '\n'
  | 'r' => some '\r'
  | 't' => some '\t'
  | _ => none

/-- Reads on after an opening quote. `seen` holds the characters so far, last first, and `sound`
says that every escape so far denoted a character. -/
def literal (seen : List Char) (sound : Bool) : List Char → Literal
  | [] => .torn
  | '"' :: rest => if sound then .text (String.ofList seen.reverse) rest else .garbled rest
  | '\\' :: 'u' :: a :: b :: c :: d :: '\\' :: 'u' :: e :: f :: g :: h :: rest =>
    match hex4? a b c d with
    | none => .torn
    | some high =>
      if isHigh high then
        match hex4? e f g h with
        | none => .torn
        | some low =>
          if isLow low then literal (joinSurrogates high low :: seen) sound rest
          else literal seen false ('\\' :: 'u' :: e :: f :: g :: h :: rest)
      else if isLow high then literal seen false ('\\' :: 'u' :: e :: f :: g :: h :: rest)
      else literal (Char.ofNat high :: seen) sound ('\\' :: 'u' :: e :: f :: g :: h :: rest)
  | '\\' :: 'u' :: a :: b :: c :: d :: rest =>
    match hex4? a b c d with
    | none => .torn
    | some n =>
      if isHigh n || isLow n then literal seen false rest
      else literal (Char.ofNat n :: seen) sound rest
  | '\\' :: c :: rest =>
    match shortEscape? c with
    | none => .torn
    | some c => literal (c :: seen) sound rest
  | c :: rest => if c < ' ' then .torn else literal (c :: seen) sound rest

def digits (cs : List Char) : List Char × List Char :=
  (cs.takeWhile Text.isDigit, cs.dropWhile Text.isDigit)

/-- The part of a numeral after a point, which needs a digit. -/
def fraction? : List Char → Option (List Char × List Char)
  | '.' :: cs =>
    let (ds, rest) := digits cs
    if ds.isEmpty then none else some ('.' :: ds, rest)
  | cs => some ([], cs)

def exponentDigits? (front cs : List Char) : Option (List Char × List Char) :=
  let (ds, rest) := digits cs
  if ds.isEmpty then none else some (front ++ ds, rest)

def exponent? : List Char → Option (List Char × List Char)
  | 'e' :: '+' :: cs => exponentDigits? ['e', '+'] cs
  | 'e' :: '-' :: cs => exponentDigits? ['e', '-'] cs
  | 'e' :: cs => exponentDigits? ['e'] cs
  | 'E' :: '+' :: cs => exponentDigits? ['E', '+'] cs
  | 'E' :: '-' :: cs => exponentDigits? ['E', '-'] cs
  | 'E' :: cs => exponentDigits? ['E'] cs
  | cs => some ([], cs)

/-- Digits without a needless zero in front, then fraction and exponent. -/
def unsignedNumeral? (cs : List Char) : Option (List Char × List Char) := do
  let (ds, rest) := digits cs
  match ds with
  | [] => none
  | '0' :: _ :: _ => none
  | _ =>
    let (frac, rest) ← fraction? rest
    let (exp, rest) ← exponent? rest
    some (ds ++ frac ++ exp, rest)

def numeral? : List Char → Option (List Char × List Char)
  | '-' :: cs => (unsignedNumeral? cs).map fun (ds, rest) => ('-' :: ds, rest)
  | cs => unsignedNumeral? cs

mutual

/-- A value at the front of the text and what follows it, if the value is whole. -/
def value : (fuel : Nat) → List Char → Json × Option (List Char)
  | 0, _ => (.torn, none)
  | fuel + 1, cs =>
    match skip cs with
    | '"' :: rest =>
      match literal [] true rest with
      | .text s rest => (.text s, some rest)
      | .garbled rest => (.garbled, some rest)
      | .torn => (.torn, none)
    | '[' :: rest =>
      match skip rest with
      | ']' :: rest => (.list [], some rest)
      | rest => let (xs, rest) := items fuel rest; (.list xs, rest)
    | '\x7b' :: rest =>
      match skip rest with
      | '\x7d' :: rest => (.record [], some rest)
      | rest => let (ms, rest) := members fuel rest; (.record ms, rest)
    | 'n' :: 'u' :: 'l' :: 'l' :: rest => (.null, some rest)
    | 't' :: 'r' :: 'u' :: 'e' :: rest => (.bool true, some rest)
    | 'f' :: 'a' :: 'l' :: 's' :: 'e' :: rest => (.bool false, some rest)
    | cs =>
      match numeral? cs with
      | some (ds, rest) =>
        (if (Numeral.ofChars ds).isTooLarge then .garbled else .number (String.ofList ds),
          some rest)
      | none => (.torn, none)

/-- The elements of a list, from a place where one has to stand. -/
def items : (fuel : Nat) → List Char → List Json × Option (List Char)
  | 0, _ => ([.torn], none)
  | fuel + 1, cs =>
    match value fuel cs with
    | (x, none) => ([x], none)
    | (x, some rest) =>
      match skip rest with
      | ',' :: rest => let (xs, rest) := items fuel rest; (x :: xs, rest)
      | ']' :: rest => ([x], some rest)
      | _ => ([x, .torn], none)

/-- The members of a record, from a place where one has to stand. -/
def members : (fuel : Nat) → List Char → List (Option String × Json) × Option (List Char)
  | 0, _ => ([(none, .torn)], none)
  | fuel + 1, cs =>
    match skip cs with
    | '"' :: rest =>
      match literal [] true rest with
      | .text s rest => member fuel (some s) rest
      | .garbled rest => member fuel none rest
      | .torn => ([(none, .torn)], none)
    | _ => ([(none, .torn)], none)

/-- A member whose name has been read, and those after it. -/
def member : (fuel : Nat) → Option String → List Char →
    List (Option String × Json) × Option (List Char)
  | 0, name, _ => ([(name, .torn)], none)
  | fuel + 1, name, cs =>
    match skip cs with
    | ':' :: rest =>
      match value fuel rest with
      | (x, none) => ([(name, x)], none)
      | (x, some rest) =>
        match skip rest with
        | ',' :: rest => let (ms, rest) := members fuel rest; ((name, x) :: ms, rest)
        | '\x7d' :: rest => ([(name, x)], some rest)
        | _ => ([(name, x), (none, .torn)], none)
    | _ => ([(name, .torn)], none)

end

/-- Twice the length bounds the calls, since every second one takes a character. -/
def read (cs : List Char) : Json × Option (List Char) := value (2 * cs.length + 2) cs

def parse? (cs : List Char) : Option Json :=
  match read cs with
  | (j, some rest) => if (skip rest).isEmpty then some j else none
  | (_, none) => none

end Parley.Json
