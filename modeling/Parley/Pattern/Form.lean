import Parley.Pattern.Basic

/-!
# Simplified forms of patterns

A `Form` is a regular expression in which the obvious simplifications were made, and from which its
machine is built. `ofSet`, `ofSequence`, `ofChoice` and `ofRepeat` make them: characters in a row
become one literal, a choice between characters one set, and what all branches of a choice start
with is taken out of it. `toRegex` is the pattern that a form stands for.
-/

namespace Parley.Regex

open Text

/-- A regular expression in simplified form. `σ` stands for sets of characters, and groups have the
number under which their match is kept. -/
inductive Form (σ : Type)
  | never
  | literal (cs : List Char)
  | set (s : σ)
  | place (a : Anchor)
  | group (index : Nat) (f : Form σ)
  | sequence (fs : List (Form σ))
  | choice (fs : List (Form σ))
  | repeats (f : Form σ) (least : Nat) (most : Option Nat) (greedy : Bool)

namespace Form

variable {σ τ : Type}

def empty : Form σ := sequence []

def map (g : σ → τ) : Form σ → Form τ
  | never => never
  | literal cs => literal cs
  | set s => set (g s)
  | place a => place a
  | group i f => group i (f.map g)
  | sequence fs => sequence (fs.map (map g))
  | choice fs => choice (fs.map (map g))
  | repeats f least most greedy => repeats (f.map g) least most greedy

/-- The number of forms in it. -/
def size : Form σ → Nat
  | group _ f => f.size + 1
  | sequence fs => (fs.map size).foldl (· + ·) 1
  | choice fs => (fs.map size).foldl (· + ·) 1
  | repeats f _ _ _ => f.size + 1
  | _ => 1

/-- Nothing but the empty text can match. -/
def isZeroWidth : Form σ → Bool
  | never => false
  | literal cs => cs.isEmpty
  | set _ => false
  | place _ => true
  | group _ f => f.isZeroWidth
  | sequence fs => (fs.map isZeroWidth).all id
  | choice fs => (fs.map isZeroWidth).all id
  | repeats f _ _ _ => f.isZeroWidth

/-- The length of the shortest match, or none if a part of the form never matches. -/
def leastLength : Form σ → Option Nat
  | never => none
  | literal cs => some cs.length
  | set _ => some 1
  | place _ => some 0
  | group _ f => f.leastLength
  | sequence fs => ((fs.map leastLength).mapM id).map fun ns => ns.foldl (· + ·) 0
  | choice fs => ((fs.map leastLength).mapM id).bind List.min?
  | repeats f least _ _ => f.leastLength.map (least * ·)

mutual

/-- The forms are written alike. -/
def same : Form Ranges → Form Ranges → Bool
  | never, never => true
  | literal cs, literal ds => cs = ds
  | set r, set s => r = s
  | place a, place b => a = b
  | group i f, group j g => i = j && f.same g
  | sequence fs, sequence gs => sameAll fs gs
  | choice fs, choice gs => sameAll fs gs
  | repeats f least most greedy, repeats g least' most' greedy' =>
    least = least' && most = most' && greedy = greedy' && f.same g
  | _, _ => false

def sameAll : List (Form Ranges) → List (Form Ranges) → Bool
  | [], [] => true
  | f :: fs, g :: gs => f.same g && sameAll fs gs
  | _, _ => false

end

/-- A set with one character is that character. -/
def ofSet (r : Ranges) : Form Ranges :=
  match r.scalars with
  | [] => never
  | [(lo, hi)] => if lo = hi then literal [Char.ofNat lo] else set [(lo, hi)]
  | r => set r

/-- What comes one after the other in a form. -/
def parts : Form σ → List (Form σ)
  | sequence fs => fs
  | f => [f]

/-- Puts a form in front of others. Two literals in a row become one. -/
def prepend : Form σ → List (Form σ) → List (Form σ)
  | literal cs, literal ds :: fs => literal (cs ++ ds) :: fs
  | f, fs => f :: fs

def ofSequence (fs : List (Form σ)) : Form σ :=
  match (fs.flatMap parts).foldr prepend [] with
  | [f] => f
  | gs => sequence gs

def ofRepeat (f : Form σ) (least : Nat) (most : Option Nat) (greedy : Bool) : Form σ :=
  let (least, most) :=
    if f.isZeroWidth then (min least 1, some (min (most.getD 1) 1)) else (least, most)
  if most = some 0 then empty
  else if least = 1 ∧ most = some 1 then f
  else repeats f least most greedy

def branches : Form σ → List (Form σ)
  | choice fs => fs
  | f => [f]

def char? : Form σ → Option Char
  | literal [c] => some c
  | _ => none

def set? : Form Ranges → Option Ranges
  | set r => some r
  | never => some []
  | _ => none

def sequence? : Form σ → Option (List (Form σ))
  | sequence (f :: fs) => some (f :: fs)
  | _ => none

/-- The longest list of forms that both lists start with. -/
def sharedStart (fs gs : List (Form Ranges)) : List (Form Ranges) :=
  ((fs.zip gs).takeWhile fun (f, g) => f.same g).map (·.1)

/-- What all branches start with, if all of them are sequences. -/
def commonStart (fs : List (Form Ranges)) : List (Form Ranges) :=
  match fs.mapM sequence? with
  | some (s :: ss) => ss.foldl sharedStart s
  | _ => []

/-- A choice, from which a common start is taken out at most `fuel` times. -/
def choose : (fuel : Nat) → List (Form Ranges) → Form Ranges
  | 0, fs => choice fs
  | fuel + 1, fs =>
    match fs.flatMap branches with
    | [] => never
    | [f] => f
    | fs =>
      match fs.mapM char?, fs.mapM set? with
      | some cs, _ => ofSet (cs.flatMap Ranges.single)
      | _, some rs => ofSet rs.flatten
      | _, _ =>
        match commonStart fs with
        | [] => choice fs
        | start =>
          let rests := fs.map fun f => ofSequence (f.parts.drop start.length)
          ofSequence (start ++ [choose fuel rests])

def ofChoice (fs : List (Form Ranges)) : Form Ranges := choose ((fs.map size).foldl (· + ·) 1) fs

def toRegex : Form Ranges → Regex
  | never => .one []
  | literal cs => (cs.map fun c => .one (Ranges.single c)).foldr .seq .empty
  | set r => .one r
  | place a => .place a
  | group _ f => f.toRegex
  | sequence fs => (fs.map toRegex).foldr .seq .empty
  | choice fs => (fs.map toRegex).foldr .either (.one [])
  | repeats f least most _ => .repeats f.toRegex least most

end Form

end Parley.Regex
