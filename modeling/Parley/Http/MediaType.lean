import Parley.Text.Decimal

/-!
# Media types

A media type names a kind of content: a type, a subtype, and perhaps a suffix after a plus sign.
Parameters may follow. They have to be written correctly, but say nothing here.
-/

namespace Parley.Http

structure MediaType where
  type : String
  subtype : String
  suffix : Option String
  deriving DecidableEq

/-- Characters of names in headers. -/
def isToken (c : Char) : Bool :=
  ('a' ≤ c && c ≤ 'z') || ('A' ≤ c && c ≤ 'Z') || Text.isDigit c ||
    "!#$%&'*+-.^_".toList.contains c || c.toNat = 96 || c = '|' || c = '~'

namespace MediaType

/-- What stands in a quoted parameter. -/
def isQuotable (c : Char) : Bool := 31 < c.toNat && c.toNat ≠ 127

/-- What is being read of the parameters. -/
inductive Reading
  | name (empty : Bool)
  | value (empty : Bool)
  | quoted (empty : Bool)
  | after

/-- Parameters after a semicolon, in which blanks may stand in front of names and after quotes. -/
def isParameters : Reading → List Char → Bool
  | .name empty, [] => empty
  | .name empty, ' ' :: cs => empty && isParameters (.name true) cs
  | .name empty, '=' :: cs => !empty && isParameters (.value true) cs
  | .name _, c :: cs => isToken c && isParameters (.name false) cs
  | .value _, [] => true
  | .value true, '"' :: cs => isParameters (.quoted true) cs
  | .value empty, ';' :: cs => !empty && isParameters (.name true) cs
  | .value _, c :: cs => isToken c && isParameters (.value false) cs
  | .quoted _, [] => false
  | .quoted false, '"' :: cs => isParameters .after cs
  | .quoted _, c :: cs => isQuotable c && isParameters (.quoted false) cs
  | .after, [] => true
  | .after, ';' :: cs => isParameters (.name true) cs
  | .after, ' ' :: cs => isParameters .after cs
  | .after, _ :: _ => false

def lower (cs : List Char) : String := String.ofList (cs.map Char.toLower)

/-- The subtype in front of the last plus sign, and the suffix after it. A plus sign at the start is
part of the name. -/
def ofNames (type sub : List Char) : MediaType :=
  let tail := (sub.reverse.takeWhile (· ≠ '+')).reverse
  let front := sub.take (sub.length - tail.length - 1)
  if front.isEmpty then ⟨lower type, lower sub, none⟩
  else ⟨lower type, lower front, some (lower tail)⟩

def ofChars? (cs : List Char) : Option MediaType :=
  let type := cs.takeWhile isToken
  match cs.dropWhile isToken with
  | '/' :: rest =>
    let sub := rest.takeWhile isToken
    if type.isEmpty then none
    else match rest.dropWhile isToken with
      | [] => some (ofNames type sub)
      | ';' :: parameters =>
        if !sub.isEmpty && isParameters (.name true) parameters then some (ofNames type sub)
        else none
      | _ => none
  | _ => none

def parse? (s : String) : Option MediaType := ofChars? s.toList

def isJson (m : MediaType) : Bool :=
  m.type = "application" && (m.subtype = "json" || m.suffix = some "json")

end MediaType

end Parley.Http
