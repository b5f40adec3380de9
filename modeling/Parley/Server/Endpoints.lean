import Parley.Server.Sending

/-!
# Endpoints

What can be done with chats, agents and the settings for all chats.
-/

namespace Parley

namespace Endpoint

def health : Handler Http.Response :=
  return .json 200 (.object [("status", .text "ok"), ("version", .text "0.1.0")])

/-- Posts a message to a chat, or to a new one. -/
def postMessage (default : String) (chat : Option (List Char)) (r : Http.Request) :
    Handler Http.Response := do
  let id ← Handler.ofExcept (chat.mapM pathId)
  let fields ← Handler.ofExcept (formOf Sending.fieldNames r)
  let sending ← Handler.ofExcept (Sending.ofFields fields)
  sending.send default id

/-- Asks the chats, and answers with the reply. -/
def showChats (c : ChatCall) (message : String) : Handler Http.Response := do
  return .json 200 (c.replyJson (← Handler.chats c message))

def showAgents (status : Nat) (c : AgentCall) (message : String) : Handler Http.Response := do
  return .json status (c.replyJson (← Handler.agents c message))

def listChats : Handler Http.Response := showChats .list "Could not load chats"

def getChat (part : List Char) : Handler Http.Response := do
  let id ← Handler.ofExcept (pathId part)
  let found ← Handler.chats (.get id) "Could not load chat"
  let chat ← Handler.orAbsent found "Chat" id
  return .json 200 chat.toJson

def deleteChat (part : List Char) : Handler Http.Response := do
  let id ← Handler.ofExcept (pathId part)
  if ← Handler.chats (.delete id) "Could not delete chat" then return { status := 204 }
  else Handler.refuse (.absent "Chat" id)

def getSettings : Handler Http.Response := showChats .settings "Could not load settings"

/-- Replaces the settings for all chats. A blank prompt is no prompt. -/
def putSettings (r : Http.Request) : Handler Http.Response := do
  let settings ← Handler.ofExcept (payloadOf GlobalSettings.decoder r)
  let settings := { settings with prompt := settings.prompt.bind Text.trimmed? }
  showChats (.putSettings settings) "Could not save settings"

/-- What is sent to make or replace an agent. -/
structure AgentPayload where
  name : String
  visibility : Visibility
  steps : List Step

namespace AgentPayload

def withSteps (steps : Stamped (List Step)) (make : List Step → AgentPayload) :
    Stamped AgentPayload := do
  return make (← steps)

def decoder : Json.Decoder (Stamped AgentPayload) :=
  Json.asRecord ["name", "visibility", "steps"] fun f =>
    (Json.Checked.of fun name visibility steps => withSteps steps (AgentPayload.mk name visibility))
      |>.apply (f.required "name" Json.asText)
      |>.apply (f.withDefault "visibility" Visibility.decoder .personal)
      |>.apply (f.required "steps" stepsDecoder)

/-- The agent, if it has a name and its steps can be run. -/
def agent (p : AgentPayload) : Handler Agent :=
  match Text.trimmed? p.name with
  | none => Handler.refuse (.invalidField "name" "Name cannot be empty")
  | some name => do
    let agent := { Agent.new (← Handler.stamp) name p.steps with visibility := p.visibility }
    match Plan.ofAgent agent with
    | .ok _ => return agent
    | .error fault => Handler.refuse (.invalid (RunError.definition fault).message)

end AgentPayload

def listAgents : Handler Http.Response := showAgents 200 .list "Could not load agents"

def getAgent (part : List Char) : Handler Http.Response := do
  let id ← Handler.ofExcept (pathId part)
  let found ← Handler.agents (.get id) "Could not load agent"
  let agent ← Handler.orAbsent found "Agent" id
  return .json 200 agent.toJson

def createAgent (p : AgentPayload) : Handler Http.Response := do
  showAgents 201 (.create (← p.agent)) "Could not create agent"

/-- Replaces an agent that is there. It keeps its identifier. -/
def replaceAgent (id : Id) (p : AgentPayload) : Handler Http.Response := do
  let found ← Handler.agents (.get id) "Could not load agent"
  let _ ← Handler.orAbsent found "Agent" id
  let agent ← p.agent
  showAgents 200 (.update { agent with id }) "Could not update agent"

def deleteAgent (part : List Char) : Handler Http.Response := do
  let id ← Handler.ofExcept (pathId part)
  if ← Handler.agents (.delete id) "Could not delete agent" then return { status := 204 }
  else Handler.refuse (.absent "Agent" id)

/-- What is done with an agent that is sent, or the refusal to read it. -/
def withPayload (p : Except Refusal (Stamped AgentPayload))
    (f : AgentPayload → Handler Http.Response) : Stamped (Handler Http.Response) :=
  match p with
  | .ok payload => do return f (← payload)
  | .error r => return Handler.refuse r

def postAgent (r : Http.Request) : Stamped (Handler Http.Response) :=
  withPayload (payloadOf AgentPayload.decoder r) createAgent

def putAgent (part : List Char) (r : Http.Request) : Stamped (Handler Http.Response) :=
  match pathId part with
  | .error refusal => return Handler.refuse refusal
  | .ok id => withPayload (payloadOf AgentPayload.decoder r) (replaceAgent id)

end Endpoint

end Parley
