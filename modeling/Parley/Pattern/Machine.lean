import Parley.Pattern.Form
import Parley.Text.Ranges.Utf8
import Std.Data.HashMap

/-!
# How large a pattern's machines are

For every pattern there are two machines that read a text byte by byte: one forward, which also
keeps where groups match, and one backward. `Form.build` counts the states of such a machine and the
bytes in their tables, and `Form.fits` says that both machines stay within `sizeLimit`. Repeated
parts are written out in a machine, so a short pattern may need a large one. Counting stops where
the limit is passed.

Characters outside ASCII take several states. Forward, states that lead on in the same way are
shared; backward, states that come from the same bytes are. What may be shared is looked up in a
`Sharing`.
-/

namespace Parley.Regex

open Text

inductive Direction
  | forward
  | backward
  deriving DecidableEq

/-- What has been counted of a machine: its states, the bytes in their tables, and whether what was
built last ends in a state with several ways on. -/
structure Machine where
  states : Nat := 0
  tables : Nat := 0
  isOpen : Bool := false

namespace Machine

/-- In bytes. -/
def sizeLimit : Nat := 10485760

def size (m : Machine) : Nat := 32 * m.states + m.tables

def isTooLarge (m : Machine) : Bool := sizeLimit < m.size

def add (m : Machine) (states tables : Nat) : Machine :=
  ⟨m.states + states, m.tables + tables, false⟩

/-- Leads on to what is built next. A state with several ways on has each of them in its table. -/
def join (m : Machine) : Machine := if m.isOpen then m.add 0 4 else m

/-- Up to `n` parts, one after the other, and no more when the machine is too large. -/
def copies (part : Machine → Machine) : (n : Nat) → Machine → Machine
  | 0, m => m
  | n + 1, m => if m.isTooLarge then m else copies part n (part m.join)

/-- Up to `n` parts, each of which may be left out together with those behind it. -/
def optional (part : Machine → Machine) : (n : Nat) → Machine → Machine
  | 0, m => m.join
  | n + 1, m => if m.isTooLarge then m else optional part n (part (m.join.add 1 8))

/-- Splits words at the empty ones, which end where they stand. -/
def wordRuns : List (List UInt8) → List (List (List UInt8))
  | [] => [[]]
  | [] :: ws => [] :: wordRuns ws
  | w :: ws =>
    match wordRuns ws with
    | run :: runs => (w :: run) :: runs
    | [] => [[w]]

/-- The tree of some words, one of which is not empty. Words with the same start share states, but
not across an empty word, since the order of the branches is kept. Of empty words at the start only
one counts. -/
def addTree : (depth : Nat) → List (List UInt8) → Machine → Machine
  | 0, _, m => m
  | depth + 1, words, m =>
    let empties := (words.takeWhile List.isEmpty).length
    let runs := wordRuns (words.drop (empties - 1))
    let filled := runs.filter fun run => !run.isEmpty
    let m := filled.foldl (fun m run =>
      let firsts := (run.filterMap List.head?).eraseDups
      let m := firsts.foldl (fun m b =>
        let rests := (run.filter fun w => w.head? = some b).map List.tail
        if rests.all List.isEmpty then m else addTree depth rests m) m
      m.add 1 (if firsts.length = 1 then 0 else 8 * firsts.length)) m
    m.add 1 (4 * (filled.length + runs.length - 1))

/-- A choice between words. -/
def addWords (m : Machine) (words : List (List UInt8)) : Machine :=
  addTree ((words.map List.length).foldl max 0) words (m.add 1 0)

/-- A machine while the states of one set are made. Each key, which says what a state does, has a
place under which the state stands until another one comes to the same place. -/
structure Sharing where
  machine : Machine
  made : Std.HashMap Nat (List Nat × Nat) := {}

namespace Sharing

/-- Mixes numbers by exclusive or and multiplication modulo 2^64 (FNV-1a). -/
def mix (key : List Nat) : UInt64 :=
  key.foldl (fun h n => (h ^^^ n.toUInt64) * 1099511628211) 14695981039346656037

/-- The state with the given key, which is made unless it stands at its place. -/
def state (s : Sharing) (places : Nat) (key : List Nat) (tables : Nat) : Nat × Sharing :=
  let place := (mix key).toNat % places
  match s.made[place]?.filter fun held => held.1 = key with
  | some held => (held.2, s)
  | none =>
    let number := s.machine.states
    (number, ⟨s.machine.add 1 tables, s.made.insert place (key, number)⟩)

/-- The state from which some sequences of bytes lead to the state `target`. The states behind it
are made first. -/
def tree (target : Nat) : (depth : Nat) → List (List ByteRange) → Sharing → Nat × Sharing
  | 0, _, s => (target, s)
  | depth + 1, sequences, s =>
    let groups := sequences.splitBy fun p q => p.head? == q.head?
    let (key, s) := groups.foldl (fun (key, s) group =>
      match group with
      | ((lo, hi) :: rest) :: _ =>
        let (next, s) :=
          if rest.isEmpty then (target, s) else tree target depth (group.map List.tail) s
        (key ++ [lo.toNat, hi.toNat, next], s)
      | _ => (key, s)) ([], s)
    s.state 10000 key (8 * groups.length)

/-- The state that reads a sequence backward and leads to the state `next`. -/
def chain (next : Nat) : List ByteRange → Sharing → Nat × Sharing
  | [], s => (next, s)
  | (lo, hi) :: rest, s =>
    let (next, s) := s.state 1000 [next, lo.toNat, hi.toNat] 0
    chain next rest s

end Sharing

end Machine

/-- How a machine reads the characters of a set: with one table if all are ASCII, otherwise byte by
byte. -/
inductive Spelling
  | table (ranges : Nat)
  | bytes (sequences : List (List ByteRange))

def Spelling.ofRanges (r : Ranges) : Spelling :=
  if List.all r fun p => p.2 < 0x80 then .table r.length else .bytes r.byteSequences

def Machine.addSet (m : Machine) : Direction → Spelling → Machine
  | _, .table ranges => m.add 2 (8 * ranges)
  | .forward, .bytes sequences => (Sharing.tree m.states 4 sequences ⟨m.add 1 0, {}⟩).2.machine
  | .backward, .bytes sequences =>
    let s := sequences.foldl (fun s q => (Sharing.chain (m.states + 1) q s).2) ⟨m.add 2 0, {}⟩
    s.machine.add 0 (4 * sequences.length)

namespace Form

variable {σ : Type}

/-- Every match starts at the start of the text or, for the backward machine, ends at its end, as
far as the form shows. -/
def isAnchored (d : Direction) : Form σ → Bool
  | place .textStart => d = .forward
  | place .textEnd => d = .backward
  | group _ f => f.isAnchored d
  | sequence fs =>
    let parts := fs.map fun f => (f.isZeroWidth, f.isAnchored d)
    leads (match d with | .forward => parts | .backward => parts.reverse)
  | choice fs => (fs.map fun f => f.isAnchored d).all id
  | repeats f least _ _ => 0 < least && f.isAnchored d
  | _ => false
where
  leads : List (Bool × Bool) → Bool
    | [] => false
    | (isZeroWidth, isAnchored) :: rest => isAnchored || (isZeroWidth && leads rest)

def literal? : Form σ → Option (List Char)
  | literal cs => some cs
  | _ => none

/-- A word in the order in which a machine reads it. -/
def word (d : Direction) (cs : List Char) : List UInt8 :=
  match d with
  | .forward => Utf8.encode cs
  | .backward => (Utf8.encode cs).reverse

/-- The machine with the states of a form behind those that it has. -/
def build (d : Direction) : Form Spelling → Machine → Machine
  | never, m => m.add 2 0
  | literal cs, m => m.add (Utf8.encode cs).length 0
  | set s, m => m.addSet d s
  | place _, m => m.add 1 0
  | group _ f, m =>
    match d with
    | .forward => (f.build d (m.add 1 0)).join.add 1 0
    | .backward => f.build d m
  | sequence [], m => m.add 1 0
  | sequence fs, m =>
    match d with
    | .forward => fs.foldl (fun m f => f.build d m.join) m
    | .backward => fs.foldr (fun f m => f.build d m.join) m
  | choice fs, m =>
    match fs.mapM literal? with
    | some words => m.addWords (words.map (word d))
    | none =>
      match fs with
      | f :: g :: rest =>
        let m := (g.build d (f.build d m).join).join.add 2 8
        rest.foldl (fun m f => (f.build d m).join.add 0 4) m
      | _ => m
  | repeats f least most _, m =>
    let part := fun m => f.build d m
    match most with
    | some most =>
      if least = 0 ∧ most = 1 then (part (m.add 1 8)).join.add 1 0
      else
        let m := if least = 0 then m.add 1 0 else m.copies part least
        if least = most then m else (m.join.add 1 0).optional part (most - least)
    | none =>
      if 0 < least then { (m.copies part least).join.add 1 4 with isOpen := true }
      else if 0 < f.leastLength.getD 0 then { (part (m.add 1 0)).join.add 0 4 with isOpen := true }
      else (part m).join.add 3 16

def machine (d : Direction) (f : Form Spelling) : Machine :=
  let start := Machine.add {} (if f.isAnchored d then 1 else 3) (if f.isAnchored d then 0 else 16)
  ((group 0 f).build d start).join.add 1 0

/-- Both machines stay within the limit. -/
def fits (f : Form Ranges) : Bool :=
  let f := f.map Spelling.ofRanges
  !(f.machine .forward).isTooLarge && !(f.machine .backward).isTooLarge

end Form

end Parley.Regex
