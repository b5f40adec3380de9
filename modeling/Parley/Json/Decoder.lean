import Parley.Json.Reader
import Parley.Text.Utf8

/-!
# Values of a type from JSON

A `Decoder` makes a value or says what is wrong first in the order of the text: the text is not
JSON (`malformed`), or it is JSON of another form (`mismatch`). A record may also be written as the
list of its fields in order. Unknown members are passed over; a repeated one is a mismatch.
-/

namespace Parley.Json

inductive Fault
  | malformed
  | mismatch
  deriving DecidableEq, Repr

abbrev Decoder (α : Type) := Json → Except Fault α

/-- The fault of a value that has none of the expected forms. -/
def otherwise {α : Type} : Decoder α
  | .garbled => .error .malformed
  | .torn => .error .malformed
  | _ => .error .mismatch

def asText : Decoder String
  | .text s => .ok s
  | j => otherwise j

def asFlag : Decoder Bool
  | .bool b => .ok b
  | j => otherwise j

/-- A whole number that is not negative and at most `limit`. -/
def asNat (limit : Nat) : Decoder Nat
  | .number numeral =>
    match Text.decimal? limit numeral.toList with
    | some n => .ok n
    | none => .error .mismatch
  | j => otherwise j

def asOption {α : Type} (d : Decoder α) : Decoder (Option α)
  | .null => .ok none
  | j => (d j).map some

def asList {α : Type} (d : Decoder α) : Decoder (List α)
  | .list items => items.mapM d
  | j => otherwise j

/-- A text that something else is read from. -/
def asParsed {α : Type} (f : String → Option α) : Decoder α := fun j => do
  match f (← asText j) with
  | some a => .ok a
  | none => .error .mismatch

/-- One of some named values: its name, or a record with just that name and null. -/
def asCase {α : Type} (cases : List (String × α)) : Decoder α
  | .text s => (cases.lookup s).elim (.error .mismatch) .ok
  | .record ((some s, x) :: rest) =>
    match cases.lookup s, x with
    | none, _ => .error .mismatch
    | some a, .null => if rest.isEmpty then .ok a else .error .malformed
    | some _, j => otherwise j
  | _ => .error .malformed

/-- A result, or a fault with the position in the record where it shows. -/
abbrev Checked (α : Type) := Except (Nat × Fault) α

namespace Checked

def of {α : Type} (a : α) : Checked α := .ok a

/-- Both results, or the fault that shows first. -/
def pair {α β : Type} : Checked α → Checked β → Checked (α × β)
  | .ok a, .ok b => .ok (a, b)
  | .ok _, .error e => .error e
  | .error e, .ok _ => .error e
  | .error e, .error e' => .error (if e'.1 < e.1 then e' else e)

/-- A function's result unless something is wrong before or in its argument. -/
def apply {α β : Type} (f : Checked (α → β)) (a : Checked α) : Checked β :=
  (pair f a).map fun (f, a) => f a

end Checked

/-- A record taken apart: the known fields with their positions, the number of places, whether it
was written as a list, and the first fault that belongs to no known field. -/
structure Fields where
  found : List (String × Nat × Json)
  places : Nat
  positional : Bool
  flaw : Option (Nat × Fault)

namespace Fields

/-- The members of a record, in order, from a position on. -/
def ofMembers (names : List String) (found : List (String × Nat × Json)) :
    (position : Nat) → List (Option String × Json) → Fields
  | position, [] => ⟨found, position, false, none⟩
  | position, (none, _) :: _ => ⟨found, position, false, some (position, .malformed)⟩
  | position, (some name, x) :: ms =>
    if names.contains name then
      if (found.lookup name).isSome then ⟨found, position, false, some (position, .mismatch)⟩
      else ofMembers names ((name, position, x) :: found) (position + 1) ms
    else if x.whole then ofMembers names found (position + 1) ms
    else ⟨found, position, false, some (position, .malformed)⟩

def ofItems (names : List String) (items : List Json) : Fields :=
  { found := (names.zip (items.zipIdx.map fun (x, i) => (i, x)))
    places := items.length
    positional := true
    flaw := if names.length < items.length then some (names.length, .malformed) else none }

def missing {α : Type} (f : Fields) : Checked α := .error (f.places, .mismatch)

def value? {α : Type} (f : Fields) (name : String) (d : Decoder α) : Option (Checked α) :=
  (f.found.lookup name).map fun (position, j) => (d j).mapError (position, ·)

def required {α : Type} (f : Fields) (name : String) (d : Decoder α) : Checked α :=
  (f.value? name d).getD f.missing

def withDefault {α : Type} (f : Fields) (name : String) (d : Decoder α) (default : α) :
    Checked α :=
  (f.value? name d).getD (.ok default)

/-- A member that may be absent from a record, but not from a list of fields. -/
def optional {α : Type} (f : Fields) (name : String) (d : Decoder α) : Checked (Option α) :=
  (f.value? name (asOption d)).getD (if f.positional then f.missing else .ok none)

/-- The result, unless something shows before it is complete. That a field is missing shows last. -/
def finish {α : Type} (f : Fields) (result : Checked α) : Except Fault α :=
  let flaw : Checked Unit := f.flaw.elim (.ok ()) .error
  ((Checked.pair flaw result).map (·.2)).mapError (·.2)

end Fields

/-- A record with the given fields, as a record or as the list of its fields. -/
def asRecord {α : Type} (names : List String) (build : Fields → Checked α) : Decoder α
  | .record members => let f := Fields.ofMembers names [] 0 members; f.finish (build f)
  | .list items => let f := Fields.ofItems names items; f.finish (build f)
  | j => otherwise j

/-- What a text holds, and nothing after it. -/
def decodeChars {α : Type} (d : Decoder α) (cs : List Char) : Except Fault α :=
  match read cs with
  | (j, some rest) => do
    let a ← d j
    if (skip rest).isEmpty then .ok a else .error .malformed
  | (j, none) => do
    let _ ← d j
    .error .malformed

def decode {α : Type} (d : Decoder α) (s : String) : Except Fault α := decodeChars d s.toList

/-- The escape of a lone surrogate, which a string literal may hold but which denotes no text. -/
def surrogateEscape : List Char := ['\\', 'u', 'd', '8', '0', '0']

/-- The characters of bytes. A malformed run reads as a lone surrogate; after a backslash it cannot
be part of an escape, and reads as a control character. -/
def charsOf (escaping : Bool) : List Text.Utf8.Piece → List Char
  | [] => []
  | .char c :: ps => c :: charsOf (c = '\\' && !escaping) ps
  | .bad _ :: ps => (if escaping then ['\x00'] else surrogateEscape) ++ charsOf false ps

def decodeBytes {α : Type} (d : Decoder α) (bs : List UInt8) : Except Fault α :=
  let (ps, held) := Text.Utf8.scan [] bs
  decodeChars d (charsOf false (if held.isEmpty then ps else ps ++ [.bad held]))

end Parley.Json
