import Parley.Http.Received
import Parley.Json.Printer
import Parley.Model.Event
import Parley.Model.Wire

/-!
# Talking to a model server

A `ModelClient` posts requests to a model server and reads what comes back: a completion as one
record, or events with pieces of it.
-/

namespace Parley

structure ModelClient where
  baseUrl : String
  model : String
  key : Option String := none

namespace ModelClient

def post (c : ModelClient) (r : Request) (stream : Bool) : Http.Post :=
  { url := completionsUrl c.baseUrl
    headers := ("content-type", "application/json") ::
      (c.key.map fun key => ("authorization", "Bearer " ++ key)).toList
    body := (r.wireBody c.model stream).compact }

/-- What came back, if the server was reached and did not refuse. -/
def accept : Option Http.Received → Except ModelFault Http.Received
  | none => .error .unreachable
  | some r => if r.isSuccess then .ok r else .error (.refused r.statusText r.text)

def completion (r : Http.Received) : Except ModelFault String :=
  if r.broken then .error .malformedCompletion
  else match Json.decodeBytes (Event.choicesDecoder "message") r.chunks.flatten with
    | .ok choices => .ok (Event.firstContent choices)
    | .error _ => .error .malformedCompletion

/-- The items that events bring, and whether more may follow. -/
def ofEvents : List (List Char) → List (Except ModelFault String) × Bool
  | [] => ([], true)
  | e :: rest =>
    match Event.parse e with
    | .ok (.delta text) => let (items, more) := ofEvents rest; (.ok text :: items, more)
    | .ok .skip => ofEvents rest
    | .ok .done => ([], false)
    | .error fault => ([.error fault], false)

/-- The items of a body, up to the first fault or the event that ends it. -/
def itemsFrom (b : EventBuffer) (broken : Bool) :
    List (List UInt8) → List (Except ModelFault String)
  | [] => if broken then [.error .broken] else (ofEvents b.finish.toList).1
  | chunk :: rest =>
    let (events, b) := b.push chunk
    let (items, more) := ofEvents events
    items ++ if more then itemsFrom b broken rest else []

def items (r : Http.Received) : List (Except ModelFault String) := itemsFrom {} r.broken r.chunks

end ModelClient

end Parley
