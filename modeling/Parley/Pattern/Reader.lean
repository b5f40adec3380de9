import Parley.Pattern.Class
import Parley.Pattern.Machine
import Parley.Text.Recent

/-!
# Reading patterns

`Regex.parse?` reads a pattern in one pass from left to right. `Part`s carry what was read so far
together with how deeply it is nested. Look-around and back-references are refused, as are patterns
nested too deeply and those whose machines would be too large.
-/

namespace Parley.Regex

open Text

def perlSigns : List Char := ['d', 's', 'w']

/-- The character after a backslash stands for itself: every ASCII sign that is neither a letter nor
a digit nor an angle bracket. -/
def escapable (c : Char) : Bool :=
  c.toNat < 0x80 && !c.isAlphanum && c ≠ '<' && c ≠ '>'

def boundary? (word : Ranges) (name : List Char) : Option Anchor :=
  match String.ofList name with
  | "start" => some (.wordStart word)
  | "end" => some (.wordEnd word)
  | "start-half" => some (.wordStartHalf word)
  | "end-half" => some (.wordEndHalf word)
  | _ => none

/-- Exactly `n` hexadecimal digits. -/
def hexDigits? (f : Flags) : (n : Nat) → (seen : List Char) → List Char →
    Option (List Char × List Char)
  | 0, seen, cs => some (seen.reverse, cs)
  | n + 1, seen, cs =>
    match f.gap cs with
    | c :: rest => if (hexDigit? c).isSome then hexDigits? f n (c :: seen) rest else none
    | [] => none

/-- The code of a character after `\x`, `\u` or `\U`. -/
def hexEscape? (f : Flags) (width : Nat) (cs : List Char) : Option (Atom × List Char) :=
  match f.gap cs with
  | '\x7b' :: rest => do
    let (ds, rest) ← braced? f (fun c => (hexDigit? c).isSome) [] rest
    if ds.isEmpty then none
    let c ← codePoint? ds
    some (.char c false, rest)
  | cs => do
    let (ds, rest) ← hexDigits? f width [] cs
    let c ← codePoint? ds
    some (.char c (width = 2), rest)

/-- A set with a name, after `\p` or `\P`. -/
def propertyEscape? (f : Flags) (negated : Bool) (cs : List Char) : Option (Atom × List Char) := do
  let (name, rest) ← match f.gap cs with
    | '\x7b' :: rest => braced? f (fun _ => true) [] rest
    | '\\' :: _ => none
    | c :: rest => some ([c], rest)
    | [] => none
  if !f.unicode then none
  let (unequal, r) ← property? name
  let r ← f.finish? (negated != unequal) r
  some (.set r, rest)

/-- A word boundary of a special kind in braces, if there is one. -/
def specialBoundary? (f : Flags) (cs : List Char) : Option (Atom × List Char) :=
  let isLetter := fun (c : Char) => c.isAlpha || c = '-'
  match cs with
  | '\x7b' :: rest =>
    match f.gap rest with
    | [] => none
    | c :: _ =>
      if isLetter c then do
        let (name, rest) ← braced? f isLetter [] rest
        let a ← boundary? f.word name
        some (.place a, rest)
      else some (.place (.wordBoundary f.word), cs)
  | _ => some (.place (.wordBoundary f.word), cs)

/-- What follows a backslash. -/
def escape? (f : Flags) : List Char → Option (Atom × List Char)
  | [] => none
  | c :: rest =>
    if c = 'x' then hexEscape? f 2 rest
    else if c = 'u' then hexEscape? f 4 rest
    else if c = 'U' then hexEscape? f 8 rest
    else if c = 'p' ∨ c = 'P' then propertyEscape? f (c = 'P') rest
    else if perlSigns.contains c then some (.set (f.shorthand c), rest)
    else if perlSigns.contains c.toLower then
      if f.unicode then some (.set (f.shorthand c.toLower).complement, rest) else none
    else if escapable c then some (.char c false, rest)
    else match c with
      | 'a' => some (.char '\x07' false, rest)
      | 'f' => some (.char '\x0c' false, rest)
      | 't' => some (.char '\t' false, rest)
      | 'n' => some (.char '\n' false, rest)
      | 'r' => some (.char '\r' false, rest)
      | 'v' => some (.char '\x0b' false, rest)
      | 'A' => some (.place .textStart, rest)
      | 'z' => some (.place .textEnd, rest)
      | 'b' => specialBoundary? f rest
      | 'B' => some (.place (.notWordBoundary f.word), rest)
      | '<' => some (.place (.wordStart f.word), rest)
      | '>' => some (.place (.wordEnd f.word), rest)
      | _ => none

/-- A set of characters and how deeply it is nested. The order of parts does not matter. -/
structure ClassPart where
  ranges : Ranges
  height : Nat

def ClassPart.join : List ClassPart → ClassPart
  | [] => ⟨[], 0⟩
  | [p] => p
  | ps => ⟨ps.flatMap (·.ranges), (ps.map (·.height)).foldl max 0 + 1⟩

inductive SetOperation
  | intersection
  | difference
  | symmetricDifference

def SetOperation.apply : SetOperation → Ranges → Ranges → Ranges
  | intersection => Ranges.inter
  | difference => Ranges.diff
  | symmetricDifference => Ranges.symmDiff

/-- The left operand that waits for a right one. -/
abbrev Pending := Option (SetOperation × ClassPart)

def Flags.combine (f : Flags) (pending : Pending) (right : ClassPart) : ClassPart :=
  match pending with
  | none => right
  | some (op, left) =>
    ⟨op.apply (f.fold left.ranges) (f.fold right.ranges), max left.height right.height + 1⟩

def setOperation? : List Char → Option (SetOperation × List Char)
  | '&' :: '&' :: rest => some (.intersection, rest)
  | '-' :: '-' :: rest => some (.difference, rest)
  | '~' :: '~' :: rest => some (.symmetricDifference, rest)
  | _ => none

/-- A set such as `[:alpha:]`, after its first bracket. -/
def posix? (f : Flags) : List Char → Option (Ranges × List Char)
  | ':' :: cs => do
    let negated := cs.head? = some '^'
    let cs := if negated then cs.drop 1 else cs
    let r ← posix.lookup (String.ofList (cs.takeWhile (· ≠ ':')))
    match cs.dropWhile (· ≠ ':') with
    | ':' :: ']' :: rest => (f.finish? negated r).map (·, rest)
    | _ => none
  | _ => none

/-- The bracket opens a set such as `[:alpha:]`, whether or not it may be used here. -/
def isPosix : List Char → Bool
  | ':' :: cs =>
    let cs := if cs.head? = some '^' then cs.drop 1 else cs
    (posix.lookup (String.ofList (cs.takeWhile (· ≠ ':')))).isSome &&
      (cs.dropWhile (· ≠ ':')).take 2 = [':', ']']
  | _ => false

def classAtom? (f : Flags) : List Char → Option (Atom × List Char)
  | '\\' :: rest => escape? f rest
  | c :: rest => some (.char c false, rest)
  | [] => none

/-- A character that may stand in a set. Without Unicode it has to be ASCII. -/
def Flags.admits (f : Flags) (c : Char) : Bool := f.unicode || c.toNat < 0x80

def peekAfter (f : Flags) (cs : List Char) : Option Char :=
  if f.verbose then
    let skipped := cs.dropWhile isBlank
    let skipped := if skipped.head? = some '#' then (skipped.drop 1).dropWhile isBlank else skipped
    (skipped.head?).or cs.head?
  else cs.head?

/-- One member of a set: a character, a named set, or a range. -/
def member? (f : Flags) (cs : List Char) : Option (ClassPart × List Char) := do
  let (first, rest) ← classAtom? f cs
  let rest := f.gap rest
  let isRange := match rest with
    | '-' :: more => peekAfter f more ≠ some ']' && peekAfter f more ≠ some '-'
    | _ => false
  if isRange then
    let (last, rest) ← classAtom? f (f.gap (rest.drop 1))
    match first, last with
    | .char a _, .char b _ =>
      if a ≤ b ∧ f.admits a ∧ f.admits b then some (⟨[(a.toNat, b.toNat)], 0⟩, rest) else none
    | _, _ => none
  else
    match first with
    | .char c _ => if f.admits c then some (⟨Ranges.single c, 0⟩, rest) else none
    | .set r => some (⟨r, 0⟩, rest)
    | .place _ => none

/-- Hyphens at the start of a set stand for themselves. -/
def leadingHyphens (f : Flags) (parts : List ClassPart) (cs : List Char) :
    List ClassPart × List Char :=
  match h : f.gap cs with
  | '-' :: rest =>
    have : rest.length < cs.length := by
      have := f.length_gap cs
      rw [h] at this
      simp only [List.length_cons] at this
      omega
    leadingHyphens f (⟨Ranges.single '-', 0⟩ :: parts) rest
  | cs => (parts, cs)
termination_by cs.length

mutual

/-- A set in brackets, after the opening one. -/
def bracket? (f : Flags) : (fuel : Nat) → List Char → Option (ClassPart × List Char)
  | 0, _ => none
  | fuel + 1, cs => do
    let cs := f.gap cs
    let negated := cs.head? = some '^'
    let (parts, cs) := leadingHyphens f [] (if negated then cs.drop 1 else cs)
    let (inner, rest) ← match parts, cs with
      | [], ']' :: rest => members? f fuel none [⟨Ranges.single ']', 0⟩] rest
      | _, _ => members? f fuel none parts cs
    let r ← f.finish? negated inner.ranges
    some (⟨r, inner.height + 1⟩, rest)

/-- The members up to the closing bracket. -/
def members? (f : Flags) : (fuel : Nat) → Pending → List ClassPart → List Char →
    Option (ClassPart × List Char)
  | 0, _, _, _ => none
  | fuel + 1, pending, parts, cs =>
    match f.gap cs with
    | [] => none
    | ']' :: rest => some (f.combine pending (.join parts), rest)
    | '[' :: rest =>
      if isPosix rest then do
        let (r, rest) ← posix? f rest
        members? f fuel pending (⟨r, 0⟩ :: parts) rest
      else do
        let (part, rest) ← bracket? f fuel rest
        members? f fuel pending (part :: parts) rest
    | cs =>
      match setOperation? cs with
      | some (op, rest) => members? f fuel (some (op, f.combine pending (.join parts))) [] rest
      | none => do
        let (part, rest) ← member? f cs
        members? f fuel pending (part :: parts) rest

end

/-- What was read, and how deeply it is nested. A switch of flags takes no repetition. -/
structure Part where
  form : Form Ranges
  height : Nat := 0
  isSwitch : Bool := false

namespace Part

/-- Parts under something that holds them together; a single one stands for itself. -/
def gather (join : List (Form Ranges) → Form Ranges) : List Part → Part
  | [p] => p
  | [] => ⟨join [], 0, false⟩
  | ps => ⟨join (ps.map (·.form)), (ps.map (·.height)).foldl max 0 + 1, false⟩

def sequence (ps : List Part) : Part := gather .ofSequence ps

def choice (ps : List Part) : Part := gather .ofChoice ps

/-- All branches, of which `parts` is the last one, each held with the latest first. -/
def ofBranches (branches parts : List Part) : Part :=
  choice (sequence parts.reverse :: branches).reverse

/-- A part in brackets, and the number of the group if there is one. -/
def group (index : Option Nat) (p : Part) : Part :=
  ⟨index.elim p.form fun i => .group i p.form, p.height + 1, false⟩

/-- A part repeated. -/
def again? (p : Part) (least : Nat) (most : Option Nat) (greedy : Bool) : Option Part :=
  if p.isSwitch then none
  else some ⟨.ofRepeat p.form least most greedy, p.height + 1, false⟩

end Part

def Flags.charPart? (f : Flags) (c : Char) (isByte : Bool) : Option Part :=
  if f.unicode then some ⟨.ofSet (f.fold (Ranges.single c)), 0, false⟩
  else if 0x7f < c.toNat then if isByte then none else some ⟨.literal [c], 0, false⟩
  else some ⟨.ofSet (f.fold (Ranges.single c)), 0, false⟩

def Flags.atomPart? (f : Flags) : Atom → Option Part
  | .char c isByte => f.charPart? c isByte
  | .set r => some ⟨.ofSet r, 0, false⟩
  | .place a => some ⟨.place a, 0, false⟩

/-- Any character, or any that does not end a line. -/
def Flags.dot? (f : Flags) : Option Part :=
  if !f.unicode then none
  else
    let ends := if f.dotAll then [] else if f.carriageReturns then ['\n', '\r'] else ['\n']
    some ⟨.ofSet (Ranges.complement (ends.flatMap Ranges.single)), 0, false⟩

/-- A sign that is neither bracket, bar nor repetition. -/
def sign? (f : Flags) : List Char → Option (Part × List Char)
  | [] => none
  | '\\' :: rest => do
    let (a, rest) ← escape? f rest
    (f.atomPart? a).map (·, rest)
  | '.' :: rest => f.dot?.map (·, rest)
  | '^' :: rest =>
    let place := if f.multiLine then .lineStart f.carriageReturns else .textStart
    some (⟨.place place, 0, false⟩, rest)
  | '$' :: rest =>
    let place := if f.multiLine then .lineEnd f.carriageReturns else .textEnd
    some (⟨.place place, 0, false⟩, rest)
  | c :: rest => (f.charPart? c false).map (·, rest)

/-- Decimal digits, with gaps between them. -/
def countDigits (f : Flags) (seen : List Char) (cs : List Char) : List Char × List Char :=
  match cs with
  | [] => (seen.reverse, [])
  | c :: rest =>
    if isDigit c then
      have := f.length_gap rest
      countDigits f (c :: seen) (f.gap rest)
    else (seen.reverse, c :: rest)
termination_by cs.length

/-- A count in a repetition: its digits, of which there may be none, and what follows. -/
def count (f : Flags) (cs : List Char) : List Char × List Char :=
  let (ds, rest) := countDigits f [] (cs.dropWhile isBlank)
  (ds, f.gap (rest.dropWhile isBlank))

def count? (ds : List Char) : Option Nat := decimal? 0xffffffff ds

/-- The bounds of a repetition, after its opening brace. -/
def bounds? (f : Flags) (cs : List Char) : Option (Nat × Option Nat × List Char) := do
  let (ds, rest) := count f (f.gap cs)
  let least ← count? ds
  match rest with
  | '\x7d' :: rest => some (least, some least, rest)
  | ',' :: rest =>
    match f.gap rest with
    | '\x7d' :: rest => some (least, none, rest)
    | rest =>
      let (ds, rest) := count f rest
      let most ← count? ds
      match rest with
      | '\x7d' :: rest => if least ≤ most then some (least, some most, rest) else none
      | _ => none
  | _ => none

/-- Whether a repetition takes as much as it can, and what follows it. A question mark behind it
turns that round. -/
def Flags.greed (f : Flags) : List Char → Bool × List Char
  | '?' :: rest => (f.swapGreed, rest)
  | cs => (!f.swapGreed, cs)

def isNameChar (first : Bool) (c : Char) : Bool :=
  c = '_' || Category.alphabetic.hasChar c || Recent.alphabetic.hasChar c ||
    (!first && (c = '.' || c = '[' || c = ']' || Category.number.hasChar c ||
      Recent.number.hasChar c))

/-- The name of a group, after its opening angle bracket. -/
def groupName? (cs : List Char) : Option (List Char × List Char) :=
  let name := cs.takeWhile (· ≠ '>')
  match name, cs.dropWhile (· ≠ '>') with
  | c :: more, _ :: rest =>
    if isNameChar true c && more.all (isNameChar false) then some (name, rest) else none
  | _, _ => none

/-- Sets a flag by its letter. -/
def Flags.set? (f : Flags) (c : Char) (on : Bool) : Option Flags :=
  match c with
  | 'i' => some { f with ignoreCase := on }
  | 'm' => some { f with multiLine := on }
  | 's' => some { f with dotAll := on }
  | 'U' => some { f with swapGreed := on }
  | 'u' => some { f with unicode := on }
  | 'R' => some { f with carriageReturns := on }
  | 'x' => some { f with verbose := on }
  | _ => none

/-- Flags up to a colon or a closing bracket: the flags, whether there were any, and the rest from
that sign on. No letter may come twice, and a hyphen needs a letter after it. -/
def switches? (f : Flags) (seen : List Char) : List Char → Option (Flags × Bool × List Char)
  | [] => none
  | c :: rest =>
    if c = ':' ∨ c = ')' then
      if seen.head? = some '-' then none else some (f, !seen.isEmpty, c :: rest)
    else if seen.contains c then none
    else if c = '-' then switches? f (c :: seen) rest
    else (f.set? c (!seen.contains '-')).bind fun f => switches? f (c :: seen) rest

/-- How a group starts. -/
inductive Opening
  | group (flags : Flags) (isKept : Bool) (rest : List Char)
  | named (name rest : List Char)
  | switch (flags : Flags) (rest : List Char)

/-- What follows the bracket that opens a group. Look-around is refused. -/
def opening? (f : Flags) (cs : List Char) : Option Opening :=
  match f.gap cs with
  | '?' :: '=' :: _ => none
  | '?' :: '!' :: _ => none
  | '?' :: '<' :: '=' :: _ => none
  | '?' :: '<' :: '!' :: _ => none
  | '?' :: 'P' :: '<' :: rest => (groupName? rest).map fun (name, rest) => .named name rest
  | '?' :: '<' :: rest => (groupName? rest).map fun (name, rest) => .named name rest
  | '?' :: rest => do
    let (flags, given, rest) ← switches? f [] rest
    match rest with
    | ')' :: rest => if given then some (.switch flags rest) else none
    | _ :: rest => some (.group flags false rest)
    | [] => none
  | rest => some (.group f true rest)

/-- Where reading stands: what is left, the flags in force, the number of groups kept so far, and
the names used for them. -/
structure Place where
  rest : List Char
  flags : Flags := {}
  groups : Nat := 0
  names : List (List Char) := []

/-- Branches up to a closing bracket or the end. `branches` and `parts` hold what was read before,
the latest first. -/
def branches? : (fuel : Nat) → Place → (branches : List Part) → (parts : List Part) →
    Option (Part × Place)
  | 0, _, _, _ => none
  | fuel + 1, k, branches, parts =>
    let f := k.flags
    let go := fun (rest : List Char) (parts : List Part) =>
      branches? fuel { k with rest } branches parts
    let again := fun (rest : List Char) (least : Nat) (most : Option Nat) =>
      let (greedy, rest) := f.greed rest
      match parts with
      | [] => none
      | p :: parts => (p.again? least most greedy).bind fun p => go rest (p :: parts)
    match f.gap k.rest with
    | [] => some (Part.ofBranches branches parts, { k with rest := [] })
    | ')' :: rest => some (Part.ofBranches branches parts, { k with rest := ')' :: rest })
    | '|' :: rest => branches? fuel { k with rest } (.sequence parts.reverse :: branches) []
    | '(' :: rest => do
      let inner (k : Place) (isKept : Bool) : Option (List Part × Place) := do
        let index := if isKept then some (k.groups + 1) else none
        let (p, k') ← branches? fuel { k with groups := index.getD k.groups } [] []
        match k'.rest with
        | ')' :: rest => some (p.group index :: parts, { k' with rest })
        | _ => none
      match ← opening? f rest with
      | .switch flags rest =>
        branches? fuel { k with rest, flags } branches (⟨.empty, 0, true⟩ :: parts)
      | .group flags isKept rest => do
        let (parts, k') ← inner { k with rest, flags } isKept
        branches? fuel { k' with flags := f } branches parts
      | .named name rest => do
        if k.names.contains name then none
        let (parts, k') ← inner { k with rest, names := name :: k.names } true
        branches? fuel { k' with flags := f } branches parts
    | '[' :: rest => do
      let (p, rest) ← bracket? f fuel rest
      go rest (⟨.ofSet p.ranges, p.height, false⟩ :: parts)
    | '?' :: rest => again rest 0 (some 1)
    | '*' :: rest => again rest 0 none
    | '+' :: rest => again rest 1 none
    | '\x7b' :: rest => do
      let (least, most, rest) ← bounds? f rest
      again (f.gap rest) least most
    | cs => do
      let (p, rest) ← sign? f cs
      go rest (p :: parts)

def nestingLimit : Nat := 250

/-- The pattern that a text stands for. Case does not matter unless the pattern says so. -/
def parse? (s : String) : Option Regex := do
  let cs := s.toList
  let (p, k) ← branches? (cs.length + 1) { rest := cs } [] []
  if k.rest.isEmpty ∧ p.height ≤ nestingLimit ∧ p.form.fits then some p.form.toRegex else none

end Parley.Regex
