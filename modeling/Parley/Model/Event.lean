import Parley.Error
import Parley.Json.Decoder
import Parley.Text.Blank
import Parley.Text.Utf8

/-!
# Server-sent events

A model server sends its answer as events separated by blank lines. `EventBuffer` cuts the bytes
that come in chunks into events; `Event.parse` reads what one event says.
-/

namespace Parley

open Text

inductive Event
  | delta (text : String)
  | done
  | skip
  deriving DecidableEq

namespace Event

def toJson : Event → Json
  | delta text => .object [("delta", .text text)]
  | done => .text "done"
  | skip => .text "skip"

/-- The lines of a text, without their ends. -/
def lines (current : List Char) : List Char → List (List Char)
  | [] => if current.isEmpty then [] else [current.reverse]
  | '\r' :: '\n' :: rest => current.reverse :: lines [] rest
  | '\n' :: rest => current.reverse :: lines [] rest
  | c :: rest => lines (c :: current) rest

/-- What a line says after the name of the field, without one blank in front. -/
def data? (line : List Char) : Option (List Char) :=
  if "data:".toList.isPrefixOf line then
    match line.drop 5 with
    | ' ' :: rest => some rest
    | rest => some rest
  else none

/-- The text in a record, which may be missing. -/
def contentDecoder : Json.Decoder (Option String) :=
  Json.asRecord ["content"] fun f => f.withDefault "content" (Json.asOption Json.asText) none

def choicesDecoder (name : String) : Json.Decoder (List (Option String)) :=
  Json.asRecord ["choices"] fun f =>
    f.required "choices" (Json.asList
      (Json.asRecord [name] fun f => f.required name contentDecoder))

/-- The text of the first choice. -/
def firstContent (choices : List (Option String)) : String := (choices.head?.bind id).getD ""

def parse (event : List Char) : Except ModelFault Event :=
  match (lines [] event).filterMap data? with
  | [] => .ok .skip
  | line :: more =>
    let data := Chars.trim (more.foldl (fun text line => text ++ '\n' :: line) line)
    if data = "[DONE]".toList then .ok .done
    else match Json.decodeChars (choicesDecoder "delta") data with
      | .error _ => .error .malformedChunk
      | .ok choices =>
        let text := firstContent choices
        .ok (if text = "" then .skip else .delta text)

end Event

/-- The characters not yet given out as events, and the bytes of a character not yet complete. -/
structure EventBuffer where
  text : List Char := []
  pending : List UInt8 := []
  deriving DecidableEq

namespace EventBuffer

/-- Every CR that stands in front of an LF is dropped. -/
def dropReturns : List Char → List Char
  | [] => []
  | '\r' :: '\n' :: rest => '\n' :: dropReturns rest
  | c :: rest => c :: dropReturns rest

/-- What ends with the first blank line, and what follows it. -/
def cut : List Char → Option (List Char × List Char)
  | [] => none
  | '\n' :: '\n' :: rest => some (['\n', '\n'], rest)
  | c :: rest => (cut rest).map fun (event, rest) => (c :: event, rest)

theorem length_cut {cs event rest : List Char} (h : cut cs = some (event, rest)) :
    rest.length < cs.length := by
  fun_induction cut cs generalizing event with
  | case1 => simp at h
  | case2 rest' =>
    simp only [Option.some.injEq, Prod.mk.injEq] at h
    rw [← h.2]
    simp only [List.length_cons]
    omega
  | case3 c cs _ ih =>
    obtain ⟨⟨e, r⟩, hr, he⟩ := Option.map_eq_some_iff.1 h
    simp only [Prod.mk.injEq] at he
    have := ih (hr.trans (by rw [he.2]))
    simp only [List.length_cons]
    omega

/-- All events that are complete, and what follows the last of them. -/
def split (cs : List Char) : List (List Char) × List Char :=
  match h : cut cs with
  | none => ([], cs)
  | some (event, rest) =>
    have := length_cut h
    let (events, rest) := split rest
    (event :: events, rest)
termination_by cs.length

/-- How many bytes can be read as text now. Malformed bytes are not waited for. -/
def readable (bs : List UInt8) : Nat :=
  match (Utf8.validPrefix bs).2 with
  | some ⟨index, none⟩ => index
  | _ => bs.length

/-- Takes the next chunk, and gives out the events that are complete with it. -/
def push (b : EventBuffer) (chunk : List UInt8) : List (List Char) × EventBuffer :=
  let bytes := b.pending ++ chunk
  let n := readable bytes
  let (events, rest) := split (dropReturns (b.text ++ Utf8.decodeLossy (bytes.take n)))
  (events, ⟨rest, bytes.drop n⟩)

/-- What is left when the bytes end, unless it is blank. -/
def finish (b : EventBuffer) : Option (List Char) :=
  let rest := dropReturns (b.text ++ Utf8.decodeLossy b.pending)
  if rest.all isBlank then none else some rest

end EventBuffer

end Parley
