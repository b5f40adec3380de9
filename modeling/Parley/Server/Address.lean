import Parley.Text.Decimal

/-!
# Addresses to listen at

A host and a port, as `1.2.3.4:80` or `[2001:db8::1]:80`. In the second form two colons may stand
for groups of zeros, and are written for the longest run of at least two.
-/

namespace Parley

inductive Host
  | v4 (octets : List Nat)
  | v6 (groups : List Nat) (scope : Nat)
  deriving DecidableEq

structure Address where
  host : Host
  port : Nat
  deriving DecidableEq

namespace Address

/-- What is read at the front of a text, and what follows. -/
abbrev Read (α : Type) := List Char → Option (α × List Char)

def char (c : Char) : Read Unit
  | d :: cs => if d = c then some ((), cs) else none
  | [] => none

/-- A number of at most `most` digits that is at most `limit`. -/
def number (digit? : Char → Option Nat) (base most limit : Nat) : Read Nat := fun cs =>
  let ds := cs.takeWhile fun c => (digit? c).isSome
  let n := Text.ofDigits base (ds.filterMap digit?)
  if ds.isEmpty || most < ds.length || limit < n then none
  else some (n, cs.drop ds.length)

/-- A decimal number with any number of zeros in front. -/
def decimal (limit : Nat) : Read Nat := fun cs => number Text.digit? 10 cs.length limit cs

/-- A number from 0 to 255 without needless zeros. -/
def octet : Read Nat := fun cs => do
  let (n, rest) ← number Text.digit? 10 3 255 cs
  if cs.head? = some '0' && rest.length + 1 < cs.length then none else some (n, rest)

def octets : Read (List Nat) := fun cs => do
  let (a, cs) ← octet cs
  let ((), cs) ← char '.' cs
  let (b, cs) ← octet cs
  let ((), cs) ← char '.' cs
  let (c, cs) ← octet cs
  let ((), cs) ← char '.' cs
  let (d, cs) ← octet cs
  return ([a, b, c, d], cs)

def group : Read Nat := number Text.hexDigit? 16 4 0xffff

/-- Skips the colon in front of a group that is not the first. -/
def afterColon (first : Bool) (cs : List Char) : Option (List Char) :=
  if first then some cs else (char ':' cs).map (·.2)

/-- Four octets as two groups. -/
def joinOctets : List Nat → List Nat
  | [a, b, c, d] => [a * 256 + b, c * 256 + d]
  | _ => []

/-- Up to so many groups, and whether the last two were written as octets. -/
def groups (first : Bool) : (room : Nat) → List Char → List Nat × Bool × List Char
  | 0, cs => ([], false, cs)
  | room + 1, cs =>
    let four := if room = 0 then none else (afterColon first cs).bind octets
    match four with
    | some (ds, rest) => (joinOctets ds, true, rest)
    | none =>
      match (afterColon first cs).bind group with
      | some (g, rest) =>
        let (gs, dotted, rest) := groups false room rest
        (g :: gs, dotted, rest)
      | none => ([], false, cs)

/-- Eight groups, or fewer with two colons where those that are missing are zeros. -/
def sixteen : Read (List Nat) := fun cs => do
  let (head, dotted, cs) := groups true 8 cs
  if head.length = 8 then return (head, cs)
  if dotted then none
  let ((), cs) ← char ':' cs
  let ((), cs) ← char ':' cs
  let (tail, _, cs) := groups true (7 - head.length) cs
  return (head ++ List.replicate (8 - head.length - tail.length) 0 ++ tail, cs)

def readPort : Read Nat := fun cs => do
  let ((), cs) ← char ':' cs
  decimal 0xffff cs

def readScope : Read Nat
  | '%' :: cs => decimal 0xffffffff cs
  | cs => some (0, cs)

def readV4 : Read Address := fun cs => do
  let (ds, cs) ← octets cs
  let (p, cs) ← readPort cs
  return (⟨.v4 ds, p⟩, cs)

def readV6 : Read Address := fun cs => do
  let ((), cs) ← char '[' cs
  let (gs, cs) ← sixteen cs
  let (s, cs) ← readScope cs
  let ((), cs) ← char ']' cs
  let (p, cs) ← readPort cs
  return (⟨.v6 gs s, p⟩, cs)

def parse? (s : String) : Option Address :=
  match (readV4 s.toList).or (readV6 s.toList) with
  | some (a, []) => some a
  | _ => none

def octetText (ds : List Nat) : String := ".".intercalate (ds.map toString)

def groupText (gs : List Nat) : String := ":".intercalate (gs.map Text.hexText)

/-- Where the longest run of zeros starts and how long it is. The first of equal runs counts. -/
def zeros (gs : List Nat) : Nat × Nat :=
  let runs := (List.range gs.length).map fun i => (i, ((gs.drop i).takeWhile (· = 0)).length)
  runs.foldl (fun best run => if best.2 < run.2 then run else best) (0, 0)

def sixteenText (gs : List Nat) : String :=
  match gs with
  | [0, 0, 0, 0, 0, 0xffff, a, b] =>
    "::ffff:" ++ octetText [a / 256, a % 256, b / 256, b % 256]
  | _ =>
    let (start, length) := zeros gs
    if 1 < length then groupText (gs.take start) ++ "::" ++ groupText (gs.drop (start + length))
    else groupText gs

def hostText : Host → String
  | .v4 ds => octetText ds
  | .v6 gs 0 => "[" ++ sixteenText gs ++ "]"
  | .v6 gs scope => "[" ++ sixteenText gs ++ "%" ++ toString scope ++ "]"

def text (a : Address) : String := hostText a.host ++ ":" ++ toString a.port

end Address

end Parley
