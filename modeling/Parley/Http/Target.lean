import Parley.Text.Utf8
import Parley.Text.Decimal

/-!
# Targets of requests

The target of a request is a path with an optional query, an address in full, or an authority alone.
`path?` gives the path, as written, and none if the target is malformed.
-/

namespace Parley.Http.Target

def isLetter (c : Char) : Bool := ('a' ≤ c && c ≤ 'z') || ('A' ≤ c && c ≤ 'Z')

def isAlphanumeric (c : Char) : Bool := isLetter c || Text.isDigit c

/-- Neither a control nor a blank. -/
def isVisible (c : Char) : Bool := 0x20 < c.toNat && c ≠ '\x7f'

def isPathChar (c : Char) : Bool :=
  isVisible c && !(['#', '<', '>', '?', Char.ofNat 96].contains c)

def isQueryChar (c : Char) : Bool := isVisible c && !(['"', '#', '<', '>'].contains c)

/-- A fragment at the end is passed over. -/
def beforeFragment (cs : List Char) : List Char := cs.takeWhile (· ≠ '#')

/-- The path of a text that may have a query. -/
def pathOfRest? (cs : List Char) : Option (List Char) :=
  let path := cs.takeWhile fun c => c ≠ '?' && c ≠ '#'
  let query := match cs.dropWhile fun c => c ≠ '?' && c ≠ '#' with
    | '?' :: rest => beforeFragment rest
    | _ => []
  if path.all isPathChar && query.all isQueryChar then some (if path.isEmpty then ['/'] else path)
  else none

def isSchemeChar (c : Char) : Bool := isAlphanumeric c || ['+', '-', '.', '~'].contains c

def longestScheme : Nat := 64

/-- What follows a scheme and its slashes, none if the scheme is too long. The text itself, and no,
if there is no scheme. -/
def afterScheme? (cs : List Char) : Option (Bool × List Char) :=
  let scheme := cs.takeWhile isSchemeChar
  match cs.dropWhile isSchemeChar with
  | ':' :: '/' :: '/' :: rest => if scheme.length ≤ longestScheme then some (true, rest) else none
  | _ => some (false, cs)

def isAuthorityChar (c : Char) : Bool :=
  isAlphanumeric c || "!$&'()*+,-.;=_~:@[]%".toList.contains c

/-- How much of an authority has been read. -/
structure Authority where
  colons : Nat := 0
  opened : Bool := false
  closed : Bool := false
  percent : Bool := false
  afterAt : Bool := false

namespace Authority

def step (a : Authority) (c : Char) : Option Authority :=
  let next := { a with afterAt := false }
  if c = ':' then if 8 ≤ a.colons then none else some { next with colons := a.colons + 1 }
  else if c = '[' then if a.percent || a.opened then none else some { next with opened := true }
  else if c = ']' then
    if !a.opened || a.closed then none
    else some { next with closed := true, colons := 0, percent := false }
  else if c = '@' then some { next with colons := 0, percent := false, afterAt := true }
  else if c = '%' then some { next with percent := true }
  else if isAuthorityChar c then some next
  else none

/-- A host with at most one colon, and no percent signs unless they belong to a user or stand in
brackets. -/
def isComplete (a : Authority) : Bool :=
  a.opened == a.closed && a.colons ≤ 1 && !a.afterAt && !a.percent

end Authority

/-- An authority, and what follows it. -/
def authority? (cs : List Char) : Option (List Char × List Char) := do
  let isEnd := fun c => c = '/' || c = '?' || c = '#'
  let authority := cs.takeWhile fun c => !isEnd c
  let read ← authority.foldlM Authority.step {}
  if read.isComplete then some (authority, cs.dropWhile fun c => !isEnd c) else none

/-- Targets are shorter than this. -/
def limit : Nat := 65535

def pathOfChars? (cs : List Char) : Option (List Char) :=
  match cs with
  | [] => none
  | ['*'] => some ['*']
  | '/' :: _ => pathOfRest? cs
  | _ => do
    let (absolute, rest) ← afterScheme? cs
    let (authority, rest) ← authority? rest
    if absolute then if authority.isEmpty then none else pathOfRest? rest
    else if rest.isEmpty then some [] else none

def path? (s : String) : Option (List Char) :=
  if (Text.Utf8.ofString s).length < limit then pathOfChars? s.toList else none

end Parley.Http.Target
