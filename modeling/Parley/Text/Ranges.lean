import Parley.Text.Decimal

/-!
# Sets of characters as ranges of code points

A `Ranges` value lists inclusive ranges. `normalize` sorts and merges them, `complement`, `inter`
and `union` are the set operations, and `ofText` reads a table written as `41-5a 61-7a aa`.
-/

namespace Parley.Text

/-- Inclusive ranges of code points, in any order. -/
abbrev Ranges := List (Nat × Nat)

namespace Ranges

def lastCode : Nat := 0x10ffff

def contains (r : Ranges) (n : Nat) : Bool := r.any fun p => p.1 ≤ n && n ≤ p.2

def hasChar (r : Ranges) (c : Char) : Bool := r.contains c.toNat

def single (c : Char) : Ranges := [(c.toNat, c.toNat)]

def all : Ranges := [(0, lastCode)]

/-- Takes into `(lo, hi)` each range that meets or touches it; the list is sorted by lower end. -/
def mergeFrom (lo hi : Nat) : Ranges → Ranges
  | [] => [(lo, hi)]
  | (lo', hi') :: rest =>
    if lo' ≤ hi + 1 then mergeFrom lo (max hi hi') rest else (lo, hi) :: mergeFrom lo' hi' rest

/-- Joins the ranges that meet or touch, in a list sorted by lower end. -/
def merge : Ranges → Ranges
  | [] => []
  | (lo, hi) :: rest => mergeFrom lo hi rest

def normalize (r : Ranges) : Ranges :=
  merge ((r.filter fun p => p.1 ≤ p.2).mergeSort fun p q => p.1 ≤ q.1)

/-- The gaps of a normalized list, from `start` on. -/
def gaps (start : Nat) : Ranges → Ranges
  | [] => if start ≤ lastCode then [(start, lastCode)] else []
  | (lo, hi) :: rest =>
    if start < lo then (start, lo - 1) :: gaps (hi + 1) rest else gaps (hi + 1) rest

def complement (r : Ranges) : Ranges := gaps 0 (normalize r)

/-- What a negated set holds: the gaps between its ranges, each from the character after one range
to the character before the next. Surrogates are no characters, so a gap of nothing but surrogates
has the characters on both sides of it as its ends. -/
def negate (r : Ranges) : Ranges :=
  (complement r).map fun (lo, hi) =>
    let first := if lo = 0xd800 then 0xe000 else lo
    let last := if hi = 0xdfff then 0xd7ff else hi
    (min first last, max first last)

/-- Sorted and merged, and without the surrogates, which are no characters. -/
def scalars (r : Ranges) : Ranges :=
  (normalize r).flatMap fun (lo, hi) =>
    [(lo, min hi 0xd7ff), (max lo 0xe000, hi)].filter fun p => p.1 ≤ p.2

def union (r s : Ranges) : Ranges := normalize (r ++ s)

def inter (r s : Ranges) : Ranges :=
  normalize (r.flatMap fun (lo, hi) => s.filterMap fun (lo', hi') =>
    if max lo lo' ≤ min hi hi' then some (max lo lo', min hi hi') else none)

def diff (r s : Ranges) : Ranges := inter r (complement s)

def symmDiff (r s : Ranges) : Ranges := union (diff r s) (diff s r)

/-- Where a reader of table text stands: the lower end if a dash was read, and the number so far. -/
structure Cursor where
  ranges : List (Nat × Nat) := []
  low : Option Nat := none
  number : Option Nat := none

def Cursor.flush (k : Cursor) : Cursor :=
  match k.number with
  | none => k
  | some n => { ranges := (k.low.getD n, n) :: k.ranges }

def Cursor.step (k : Cursor) (c : Char) : Cursor :=
  match hexDigit? c with
  | some d => { k with number := some (k.number.getD 0 * 16 + d) }
  | none => if c = '-' then { k with low := k.number, number := none } else k.flush

/-- The ranges a table lists in hexadecimal, separated by blanks. -/
def ofText (s : String) : Ranges := (s.toList.foldl Cursor.step {}).flush.ranges.reverse

end Ranges

end Parley.Text
