import Parley.Json.Basic
import Parley.Text.Decimal

/-!
# Writing JSON

One printer with two layouts: on one line without blanks, or one member or element to a line,
indented by two spaces a level.
-/

namespace Parley.Json

def controlEscape (c : Char) : List Char :=
  ['\\', 'u'] ++ (Text.toDigits 16 4 c.toNat).map Text.digitChar

/-- Quotes, backslashes and control characters are escaped, and nothing else. -/
def escapeChar (c : Char) : List Char :=
  if c = '"' then ['\\', '"']
  else if c = '\\' then ['\\', '\\']
  else if c = '\x08' then ['\\', 'b']
  else if c = '\x0c' then ['\\', 'f']
  else if c = '\n' then ['\\', 'n']
  else if c = '\r' then ['\\', 'r']
  else if c = '\t' then ['\\', 't']
  else if c < ' ' then controlEscape c
  else [c]

def quote (s : String) : List Char := '"' :: s.toList.flatMap escapeChar ++ ['"']

/-- What stands in front of a member or element at a level, if values are spread over lines. -/
def lineBreak : Option Nat → List Char
  | none => []
  | some level => '\n' :: List.replicate (2 * level) ' '

def deeper (level : Option Nat) : Option Nat := level.map (· + 1)

def colon (level : Option Nat) : List Char := if level.isSome then [':', ' '] else [':']

mutual

def print (level : Option Nat) : Json → List Char
  | .null => "null".toList
  | .bool true => "true".toList
  | .bool false => "false".toList
  | .number numeral => numeral.toList
  | .text s => quote s
  | .list [] => ['[', ']']
  | .list (x :: xs) =>
    '[' :: printItems (deeper level) (x :: xs) ++ (lineBreak level ++ [']'])
  | .record [] => ['\x7b', '\x7d']
  | .record (m :: ms) =>
    '\x7b' :: printMembers (deeper level) (m :: ms) ++ (lineBreak level ++ ['\x7d'])
  | .garbled => []
  | .torn => []

def printItems (level : Option Nat) : List Json → List Char
  | [] => []
  | [x] => lineBreak level ++ print level x
  | x :: xs => lineBreak level ++ print level x ++ ',' :: printItems level xs

def printMembers (level : Option Nat) : List (Option String × Json) → List Char
  | [] => []
  | [(name, x)] => lineBreak level ++ quote (name.getD "") ++ colon level ++ print level x
  | (name, x) :: ms =>
    lineBreak level ++ quote (name.getD "") ++ colon level ++ print level x ++
      ',' :: printMembers level ms

end

def compact (j : Json) : String := String.ofList (print none j)

def pretty (j : Json) : String := String.ofList (print (some 0) j)

end Parley.Json
