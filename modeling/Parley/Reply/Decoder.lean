import Parley.Error
import Parley.Reply.Frame

/-!
# Reading the frames of a reply

A `Decoder` takes the bytes of a reply in chunks that may be cut anywhere. Text is given out as soon
as it is known to be text: an unfinished character is held back, and so is a NUL at the end, with
which the mark may start. After the mark the bytes have to spell one of the two status words.
-/

namespace Parley.Reply

open Text

inductive Frame
  | text (s : String)
  | status (s : Status)
  deriving DecidableEq

def Frame.toJson : Frame → Json
  | text s => .object [("text", .text s)]
  | status s => .object [("status", s.toJson)]

/-- What is expected next: text, the rest of the status word, or nothing. -/
inductive Stage
  | streaming
  | statusPending
  | done
  deriving DecidableEq

def Stage.name : Stage → String
  | streaming => "Streaming"
  | statusPending => "StatusPending"
  | done => "Done"

structure Decoder where
  stage : Stage := .streaming
  pending : Bytes := []
  deriving DecidableEq

/-- What stands in front of the first mark, and what follows it. -/
def splitSentinel : Bytes → Option (Bytes × Bytes)
  | [] => none
  | 0 :: 10 :: rest => some ([], rest)
  | b :: rest => (splitSentinel rest).map fun (front, after) => (b :: front, after)

def frameOf (cs : List Char) : List Frame :=
  if cs.isEmpty then [] else [.text (String.ofList cs)]

/-- The bytes without a NUL at their end. -/
def dropFinalNul (bs : Bytes) : Bytes := if bs.getLast? = some 0 then bs.dropLast else bs

/-- The characters that are whole, and the bytes to hold back. -/
def takeText (bs : Bytes) : Except ProtocolFault (List Char × Bytes) :=
  match Utf8.validPrefix (dropFinalNul bs) with
  | (cs, none) => .ok (cs, bs.drop (dropFinalNul bs).length)
  | (cs, some ⟨index, none⟩) => .ok (cs, bs.drop index)
  | (_, some flaw) => .error (.notText flaw)

/-- All of the bytes as characters. -/
def wholeText (bs : Bytes) : Except ProtocolFault (List Char) :=
  match Utf8.validPrefix bs with
  | (cs, none) => .ok cs
  | (_, some flaw) => .error (.notText flaw)

/-- The status that the bytes start with, none if they are the start of a status word. -/
def readStatus (bs : Bytes) : Except ProtocolFault (Option Status) :=
  if Status.success.token.isPrefixOf bs then .ok (some .success)
  else if bs.isPrefixOf Status.success.token then .ok none
  else if Status.failure.token.isPrefixOf bs then .ok (some .failure)
  else if bs.isPrefixOf Status.failure.token then .ok none
  else .error (.badStatus (Utf8.toStringLossy bs))

namespace Decoder

/-- Looks for a status word in what follows the mark. -/
def awaitStatus (frames : List Frame) (bs : Bytes) :
    Except ProtocolFault (List Frame) × Decoder :=
  match readStatus bs with
  | .ok (some s) => (.ok (frames ++ [.status s]), ⟨.done, []⟩)
  | .ok none => (.ok frames, ⟨.statusPending, bs⟩)
  | .error e => (.error e, ⟨.statusPending, bs⟩)

/-- Takes the next chunk. Frames that come before a fault in the same chunk are not given out. -/
def push (d : Decoder) (chunk : Bytes) : Except ProtocolFault (List Frame) × Decoder :=
  let bs := d.pending ++ chunk
  match d.stage with
  | .done => (.ok [], d)
  | .statusPending => awaitStatus [] bs
  | .streaming =>
    match splitSentinel bs with
    | some (front, after) =>
      match wholeText front with
      | .ok cs => awaitStatus (frameOf cs) after
      | .error e => (.error e, ⟨.streaming, front⟩)
    | none =>
      match takeText bs with
      | .ok (cs, held) => (.ok (frameOf cs), ⟨.streaming, held⟩)
      | .error e => (.error e, ⟨.streaming, bs⟩)

/-- The end of the bytes. It is a fault unless a status came. -/
def finish (d : Decoder) : Except ProtocolFault Unit :=
  match d.stage with
  | .done => .ok ()
  | .statusPending => .error .cutStatus
  | .streaming => .error .noStatus

end Decoder

/-- A chunk of a body, or why it could not be read. -/
abbrev Chunk := Except String Bytes

/-- The frames of a body up to the status, with a fault at the end if there is one. -/
def decodeFrom (d : Decoder) : List Chunk → List (Except ProtocolFault Frame)
  | [] =>
    match d.finish with
    | .ok () => []
    | .error e => [.error e]
  | .error detail :: _ => [.error (.readFailed detail)]
  | .ok chunk :: rest =>
    match d.push chunk with
    | (.error e, _) => [.error e]
    | (.ok frames, d) =>
      frames.map .ok ++ if d.stage = .done then [] else decodeFrom d rest

def decode (body : List Chunk) : List (Except ProtocolFault Frame) := decodeFrom {} body

/-- The texts among frames, and whether the reply is complete. At most `most` texts are taken before
the rest is dropped; what is dropped before the status is known says nothing about it. -/
def separate : (most : Option Nat) → List (Except ProtocolFault Frame) →
    List (Except ProtocolFault String) × Option Bool
  | some 0, _ => ([], none)
  | _, [] => ([], some false)
  | most, .ok (.text s) :: rest =>
    let (texts, signal) := separate (most.map (· - 1)) rest
    (.ok s :: texts, signal)
  | most, .ok (.status s) :: rest => ((separate most rest).1, some s.isSuccess)
  | _, .error e :: _ => ([.error e], some false)

end Parley.Reply
