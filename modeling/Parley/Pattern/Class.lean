import Parley.Pattern.Basic
import Parley.Text.Age
import Parley.Text.Blank
import Parley.Text.GraphemeBreak
import Parley.Text.ScriptExtension
import Parley.Text.WordBreak

/-!
# Sets of characters in patterns

Flags, the sets with a name, and sets in brackets. A set is first widened to all cases if case does
not matter, then negated. Without Unicode a set holds ASCII characters only, and cannot be negated.
-/

namespace Parley

open Text

/-- What the letters in `(?i)` and the like switch. -/
structure Regex.Flags where
  ignoreCase : Bool := true
  multiLine : Bool := false
  dotAll : Bool := false
  unicode : Bool := true
  carriageReturns : Bool := false
  verbose : Bool := false
  swapGreed : Bool := false

namespace Regex

def asciiLetters (r : Ranges) : Ranges :=
  Ranges.normalize (r ++ (Ranges.inter r [(0x41, 0x5a)]).map (fun (a, b) => (a + 32, b + 32)) ++
    (Ranges.inter r [(0x61, 0x7a)]).map (fun (a, b) => (a - 32, b - 32)))

/-- The set with all cases, if case does not matter. -/
def Flags.fold (f : Flags) (r : Ranges) : Ranges :=
  if !f.ignoreCase then r
  else if f.unicode then Folding.close r
  else asciiLetters r

def Flags.finish? (f : Flags) (negated : Bool) (r : Ranges) : Option Ranges :=
  let r := f.fold r
  if f.unicode then some (if negated then r.negate else r)
  else if negated || r.any (fun p => 0x7f < p.2) then none
  else some r

/-- Drops blanks and comments. `inComment` holds between `#` and the end of its line. -/
def skipVerbose : (inComment : Bool) → List Char → List Char
  | _, [] => []
  | true, c :: cs => skipVerbose (c ≠ '\n') cs
  | false, c :: cs =>
    if c = '#' then skipVerbose true cs
    else if isBlank c then skipVerbose false cs
    else c :: cs

def Flags.gap (f : Flags) (cs : List Char) : List Char :=
  if f.verbose then skipVerbose false cs else cs

theorem length_skipVerbose (b : Bool) (cs : List Char) :
    (skipVerbose b cs).length ≤ cs.length := by
  induction cs generalizing b with
  | nil => simp [skipVerbose]
  | cons c cs ih =>
    cases b with
    | true => exact Nat.le_succ_of_le (ih _)
    | false =>
      rw [skipVerbose]
      split
      · exact Nat.le_succ_of_le (ih _)
      · split
        · exact Nat.le_succ_of_le (ih _)
        · exact Nat.le_refl _

theorem Flags.length_gap (f : Flags) (cs : List Char) : (f.gap cs).length ≤ cs.length := by
  unfold gap
  split
  · exact length_skipVerbose false cs
  · exact Nat.le_refl _

/-- What a sign or an escape stands for. -/
inductive Atom
  | char (c : Char) (isByte : Bool)
  | set (r : Ranges)
  | place (a : Anchor)

def asciiWord : Ranges := [(0x30, 0x39), (0x41, 0x5a), (0x5f, 0x5f), (0x61, 0x7a)]

def asciiSpace : Ranges := [(9, 13), (32, 32)]

def Flags.word (f : Flags) : Ranges := if f.unicode then Category.word else asciiWord

/-- The sets `\d`, `\s` and `\w`. -/
def Flags.shorthand (f : Flags) (c : Char) : Ranges :=
  if c = 'd' then if f.unicode then Category.decimalNumber else [(0x30, 0x39)]
  else if c = 's' then if f.unicode then Category.whiteSpace else asciiSpace
  else f.word

/-- The sets such as `[:alpha:]`. -/
def posix : List (String × Ranges) :=
  [("alnum", [(0x30, 0x39), (0x41, 0x5a), (0x61, 0x7a)]),
    ("alpha", [(0x41, 0x5a), (0x61, 0x7a)]), ("ascii", [(0, 0x7f)]), ("blank", [(9, 9), (32, 32)]),
    ("cntrl", [(0, 0x1f), (0x7f, 0x7f)]), ("digit", [(0x30, 0x39)]), ("graph", [(0x21, 0x7e)]),
    ("lower", [(0x61, 0x7a)]), ("print", [(0x20, 0x7e)]),
    ("punct", [(0x21, 0x2f), (0x3a, 0x40), (0x5b, 0x60), (0x7b, 0x7e)]), ("space", asciiSpace),
    ("upper", [(0x41, 0x5a)]), ("word", asciiWord),
    ("xdigit", [(0x30, 0x39), (0x41, 0x46), (0x61, 0x66)])]

/-- A name of a property without case, blanks, hyphens, underscores and a leading "is". -/
def looseName (cs : List Char) : String :=
  let plain := fun (cs : List Char) =>
    (cs.filter fun c => c.toNat < 0x80 && c ≠ ' ' && c ≠ '_' && c ≠ '-').map Char.toLower
  let name := match cs with
    | a :: b :: rest =>
      if a.toLower = 'i' ∧ b.toLower = 's' then
        if plain rest = ['c'] then ['i', 's', 'c'] else plain rest
      else plain cs
    | _ => plain cs
  String.ofList name

def category? (name : String) : Option Ranges :=
  (Category.named.find? fun (names, _) => names.contains name).map (·.2)

/-- The set of the characters for which a property has the given value. -/
def valued? (key value : String) : Option Ranges :=
  if key = "gc" ∨ key = "generalcategory" then category? value
  else if key = "sc" ∨ key = "script" then Script.find? value
  else if key = "scx" ∨ key = "scriptextensions" then ScriptExtension.find? value
  else if key = "age" then Age.find? value
  else if key = "gcb" ∨ key = "graphemeclusterbreak" then GraphemeBreak.find? value
  else if key = "wb" ∨ key = "wordbreak" then WordBreak.find? value
  else if key = "sb" ∨ key = "sentencebreak" then SentenceBreak.find? value
  else none

/-- The set with the given name, in braces after `\p`, and whether its complement is meant: `!=`
asks for the characters with any other value. -/
def property? (cs : List Char) : Option (Bool × Ranges) :=
  let before := cs.takeWhile fun c => c ≠ ':' && c ≠ '='
  match cs.dropWhile fun c => c ≠ ':' && c ≠ '=' with
  | [] =>
    let name := looseName cs
    ((Property.find? name).or ((category? name).or (Script.find? name))).map (false, ·)
  | sign :: value =>
    let unequal := sign = '=' && before.getLast? = some '!'
    let key := looseName (if unequal then before.dropLast else before)
    (valued? key (looseName value)).map (unequal, ·)

def hexNumber (cs : List Char) : Option Nat := (cs.mapM hexDigit?).map (ofDigits 16)

/-- The character with the given code in hexadecimal. -/
def codePoint? (cs : List Char) : Option Char := do
  if 8 < (cs.dropWhile (· = '0')).length then none
  let n ← hexNumber cs
  if Nat.isValidChar n then some (Char.ofNat n) else none

/-- Characters of a kind up to a closing brace, and what follows it. -/
def braced? (f : Flags) (keep : Char → Bool) (seen : List Char) (cs : List Char) :
    Option (List Char × List Char) :=
  match h : f.gap cs with
  | [] => none
  | c :: rest =>
    have : rest.length < cs.length := by
      have := f.length_gap cs
      rw [h] at this
      simp only [List.length_cons] at this
      omega
    if c = '\x7d' then some (seen.reverse, rest)
    else if keep c then braced? f keep (c :: seen) rest
    else none
termination_by cs.length

end Regex

end Parley
