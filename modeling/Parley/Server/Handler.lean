import Parley.Http.Form
import Parley.Http.Message

/-!
# Handlers

A handler does the work for a request. Where it cannot go on it stops with a `Refusal`, which says
why, in words fit for strangers: what went wrong inside a store or a model is left out of it.
-/

namespace Parley

inductive Refusal
  | internal (message : String)
  | absent (kind : String) (id : Id)
  | invalid (message : String)
  | invalidField (name message : String)
  | badPath
  | wrongFormType
  | badForm
  | wrongJsonType
  | malformedJson
  | mismatchedJson
  | tooLarge
  deriving DecidableEq

namespace Refusal

/-- What is wrong, and for a field of a form or record, what is wrong with it. -/
def errorJson (message : String) (fields : List (String × String)) : Json :=
  .object (("error", .text message) ::
    if fields.isEmpty then []
    else [("fields", .object (fields.map fun (name, why) => (name, .list [.text why])))])

/-- The response to a request that is refused. Another party's account of a fault is left out. -/
def response : Refusal → Http.Response
  | internal message => .json 500 (errorJson message [])
  | absent kind id => .json 404 (errorJson s!"{kind} {id.text} not found" [])
  | invalid message => .json 400 (errorJson message [])
  | invalidField name message => .json 400 (errorJson message [(name, message)])
  | badPath => .text 400 "Invalid URL: "
  | wrongFormType =>
    .text 415 "Form requests must have `Content-Type: application/x-www-form-urlencoded`"
  | badForm => .text 422 "Failed to deserialize form body: "
  | wrongJsonType => .text 415 "Expected request with `Content-Type: application/json`"
  | malformedJson => .text 400 "Failed to parse the request body as JSON: "
  | mismatchedJson => .text 422 "Failed to deserialize the JSON body into the target type: "
  | tooLarge => .text 413 "Failed to buffer the request body: length limit exceeded"

end Refusal

abbrev Handler (α : Type) := ExceptT Refusal Task α

namespace Handler

def refuse {α : Type} (r : Refusal) : Handler α := throw r

/-- Asks the chats. If that fails, the request is refused with a message. -/
def chats (c : ChatCall) (message : String) : Handler c.Reply := do
  match ← (Task.chats c : Task _) with
  | .ok reply => return reply
  | .error _ => refuse (.internal message)

def agents (c : AgentCall) (message : String) : Handler c.Reply := do
  match ← (Task.agents c : Task _) with
  | .ok reply => return reply
  | .error _ => refuse (.internal message)

def stamp : Handler Stamp := (Task.stamp : Task Stamp)

/-- What is there, or a refusal because it is not. -/
def orAbsent {α : Type} (found : Option α) (kind : String) (id : Id) : Handler α :=
  match found with
  | some a => return a
  | none => refuse (.absent kind id)

def ofExcept {α : Type} : Except Refusal α → Handler α
  | .ok a => return a
  | .error r => refuse r

/-- The response of a handler, in either case. -/
def respond (h : Handler Http.Response) : Task Http.Response := do
  match ← h.run with
  | .ok response => return response
  | .error r => return r.response

end Handler

/-- Longer bodies are not read. -/
def bodyLimit : Nat := 2097152

/-- The identifier that a part of a path stands for. -/
def pathId (part : List Char) : Except Refusal Id :=
  match (Text.Utf8.toString? (Http.Percent.decode (Text.Utf8.encode part))).bind Id.parse? with
  | some id => .ok id
  | none => .error .badPath

/-- The fields of a form, of which none of the given names may come twice. -/
def formOf (names : List String) (r : Http.Request) : Except Refusal (List (String × String)) :=
  if !r.hasForm then .error .wrongFormType
  else if bodyLimit < r.body.length then .error .tooLarge
  else
    let fields := Http.Form.decode r.body
    if Http.Form.isSingle names fields then .ok fields else .error .badForm

def payloadOf {α : Type} (d : Json.Decoder α) (r : Http.Request) : Except Refusal α :=
  if !r.hasJson then .error .wrongJsonType
  else if bodyLimit < r.body.length then .error .tooLarge
  else match Json.decodeBytes d r.body with
    | .ok a => .ok a
    | .error .malformed => .error .malformedJson
    | .error .mismatch => .error .mismatchedJson

end Parley
