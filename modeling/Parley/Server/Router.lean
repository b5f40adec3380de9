import Parley.Server.Endpoints

/-!
# Routes

A path leads to a `Route`, and a route says which methods it answers and how. Every response tells
browsers that any origin may read it; a request for the options of a path is answered with that
alone.
-/

namespace Parley

inductive Route
  | health
  | newChat
  | chat (part : List Char)
  | chats
  | agents
  | agent (part : List Char)
  | settings
  deriving DecidableEq

inductive Verb
  | get
  | post
  | put
  | delete
  deriving DecidableEq

/-- The methods of a verb. Where something can be got, its headers alone can be got as well. -/
def Verb.methods : Verb → List String
  | get => ["GET", "HEAD"]
  | post => ["POST"]
  | put => ["PUT"]
  | delete => ["DELETE"]

namespace Route

/-- A part of a path that stands for an identifier: not empty and without slashes. -/
def part? (cs : List Char) : Option (List Char) :=
  if cs.isEmpty || cs.contains '/' then none else some cs

def below? (front : String) (path : List Char) : Option (List Char) :=
  if front.toList.isPrefixOf path then part? (path.drop front.toList.length) else none

def ofPath? (path : List Char) : Option Route :=
  if path = "/health".toList then some health
  else if path = "/api/chat".toList then some newChat
  else if path = "/api/chats".toList then some chats
  else if path = "/api/agents".toList then some agents
  else if path = "/api/settings".toList then some settings
  else match below? "/api/chat/" path with
    | some part => some (chat part)
    | none => (below? "/api/agents/" path).map agent

/-- What a route does for each verb. -/
def endpoints (default : String) (request : Http.Request) :
    Route → List (Verb × Stamped (Handler Http.Response))
  | health => [(.get, pure Endpoint.health)]
  | newChat => [(.post, pure (Endpoint.postMessage default none request))]
  | chat part =>
    [(.get, pure (Endpoint.getChat part)),
      (.post, pure (Endpoint.postMessage default (some part) request)),
      (.delete, pure (Endpoint.deleteChat part))]
  | chats => [(.get, pure Endpoint.listChats)]
  | agents => [(.get, pure Endpoint.listAgents), (.post, Endpoint.postAgent request)]
  | agent part =>
    [(.get, pure (Endpoint.getAgent part)), (.put, Endpoint.putAgent part request),
      (.delete, pure (Endpoint.deleteAgent part))]
  | settings =>
    [(.get, pure Endpoint.getSettings), (.put, pure (Endpoint.putSettings request))]

/-- The methods of a route, as a header. -/
def allowed (default : String) (request : Http.Request) (route : Route) : List (String × String) :=
  let methods := (route.endpoints default request).flatMap fun (verb, _) => verb.methods
  [("allow", ",".intercalate methods)]

end Route

/-- What a response varies with. -/
def varyHeader : String × String :=
  ("vary", "origin, access-control-request-method, access-control-request-headers")

def openToAll (r : Http.Response) : Http.Response :=
  { r with headers := r.headers ++
      [("access-control-allow-origin", "*"), ("access-control-expose-headers", "*"), varyHeader] }

def optionHeaders : List (String × String) :=
  [("access-control-allow-origin", "*"), ("access-control-allow-methods", "*"),
    ("access-control-allow-headers", "*"), varyHeader]

/-- A response to a request that asks for headers alone has no body. -/
def withoutBodyFor (request : Http.Request) (r : Http.Response) : Http.Response :=
  if request.method = "HEAD" then { r with body := .bytes [] } else r

/-- The work for a request that a route answers to. -/
def complete (request : Http.Request) (h : Handler Http.Response) : Task Http.Response := do
  return withoutBodyFor request (openToAll (← h.respond))

/-- The work for a request. `default` is the system prompt where no other is set. -/
def respond (default : String) (request : Http.Request) : Stamped (Task Http.Response) :=
  let route := Route.ofPath? request.path
  let allow := (route.map (·.allowed default request)).getD []
  if request.method = "OPTIONS" then
    return return { status := 200, headers := optionHeaders ++ allow }
  else match route with
    | none => return return openToAll { status := 404 }
    | some route =>
      match (route.endpoints default request).find? (·.1.methods.contains request.method) with
      | some (_, endpoint) => do return complete request (← endpoint)
      | none => return return openToAll { status := 405, headers := allow }

namespace World

/-- Serves a request, none if the work for it was dropped at the cutoff. -/
def serve (w : World) (default : String) (request : Http.Request) : Option Http.Response × World :=
  let (task, stamps) := (respond default request).run w.stamps
  { w with stamps, cancelAt := none }.perform task

/-- Serves a request, and drops the work for it when it takes longer than `most`. -/
def serveWithin (w : World) (default : String) (request : Http.Request) (most : Option Nat) :
    Option Http.Response × World :=
  let (response, w) := { w with cutoff := most.map (w.now + ·) }.serve default request
  (response, { w with cutoff := none })

end World

end Parley
