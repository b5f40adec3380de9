import Parley.Text.Category

/-!
# Patterns and searching

A `Pattern` is a regular expression over sets of characters and places in a text. Sets of places of
a text are numbers, place `i` being bit `i`: `Pattern.reach` maps the places where a match may start
to those where it may end. `Pattern.search` says whether a pattern matches anywhere.
-/

namespace Parley

/-- A regular expression. `σ` says which characters match, `α` which places do. -/
inductive Pattern (σ α : Type)
  | empty
  | one (s : σ)
  | place (a : α)
  | seq (p q : Pattern σ α)
  | either (p q : Pattern σ α)
  | repeats (p : Pattern σ α) (least : Nat) (most : Option Nat)

/-- A condition on the characters around a place. -/
inductive Anchor
  | textStart
  | textEnd
  | lineStart (carriageReturns : Bool)
  | lineEnd (carriageReturns : Bool)
  | wordBoundary (word : Text.Ranges)
  | notWordBoundary (word : Text.Ranges)
  | wordStart (word : Text.Ranges)
  | wordEnd (word : Text.Ranges)
  | wordStartHalf (word : Text.Ranges)
  | wordEndHalf (word : Text.Ranges)
  deriving DecidableEq

/-- Whether a place between two characters, or at an end of the text, is of the kind asked for. -/
def Anchor.holds (before after : Option Char) : Anchor → Bool
  | textStart => before.isNone
  | textEnd => after.isNone
  | lineStart false => before.isNone || before = some '\n'
  | lineStart true =>
    before.isNone || before = some '\n' || (before = some '\r' && after ≠ some '\n')
  | lineEnd false => after.isNone || after = some '\n'
  | lineEnd true => after.isNone || after = some '\r' || (after = some '\n' && before ≠ some '\r')
  | wordBoundary word => inside word before != inside word after
  | notWordBoundary word => inside word before == inside word after
  | wordStart word => !inside word before && inside word after
  | wordEnd word => inside word before && !inside word after
  | wordStartHalf word => !inside word before
  | wordEndHalf word => !inside word after
where
  inside (word : Text.Ranges) (c : Option Char) : Bool := c.any word.hasChar

/-- A regular expression as written. -/
abbrev Regex := Pattern Text.Ranges Anchor

/-- A regular expression for one text: sets of places in place of sets of characters. -/
abbrev Located := Pattern Nat Nat

namespace Pattern

variable {σ α : Type}

def map {σ' α' : Type} (f : σ → σ') (g : α → α') : Pattern σ α → Pattern σ' α'
  | empty => empty
  | one s => one (f s)
  | place a => place (g a)
  | seq p q => seq (p.map f g) (q.map f g)
  | either p q => either (p.map f g) (q.map f g)
  | repeats p least most => repeats (p.map f g) least most

/-- Applies a function up to `n` times, and no longer than it changes something. -/
def iterate (f : Nat → Nat) : (n : Nat) → Nat → Nat
  | 0, s => s
  | n + 1, s => let t := f s; if t = s then s else iterate f n t

/-- The places where matches end that start at the given places of a text with `length`
characters. More than `length + 1` repetitions reach nothing new, since one of them stays in its
place and may be left out or added. -/
def reach (length : Nat) : Located → Nat → Nat
  | empty, s => s
  | one m, s => (s &&& m) <<< 1
  | place m, s => s &&& m
  | seq p q, s => reach length q (reach length p s)
  | either p q, s => reach length p s ||| reach length q s
  | repeats p least most, s =>
    let s := iterate (reach length p) (min least (length + 2)) s
    let more := (most.map (· - least)).getD (length + 2)
    iterate (fun t => t ||| reach length p t) (min more (length + 2)) s

/-- The number whose bits are the given truth values, the lowest one first. -/
def bits : List Bool → Nat
  | [] => 0
  | b :: bs => 2 * bits bs + b.toNat

/-- The characters on both sides of every place from the first on. -/
def surroundings (before : Option Char) : List Char → List (Option Char × Option Char)
  | [] => [(before, none)]
  | c :: cs => (before, some c) :: surroundings (some c) cs

def locate (p : Regex) (cs : List Char) : Located :=
  p.map (fun r => bits (cs.map r.hasChar))
    (fun a => bits ((surroundings none cs).map fun (before, after) => a.holds before after))

/-- Whether a part of the text matches. -/
def search (p : Regex) (text : String) : Bool :=
  let cs := text.toList
  reach cs.length (p.locate cs) (bits ((surroundings none cs).map fun _ => true)) ≠ 0

end Pattern

end Parley
