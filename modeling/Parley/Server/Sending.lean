import Parley.Run
import Parley.Server.Handler

/-!
# Sending a message

A message comes as a form. It is saved in its chat, which is made if there is none, and then the
plan of the chat's agent is run. Only when its answer has begun does the reply get a message of its
own, and the response the body that relays it.
-/

namespace Parley

/-- What a sender asks for, checked. -/
structure Sending where
  message : String
  prompt : Option String := none
  agent : Option Id := none
  deriving DecidableEq

namespace Sending

def intent : String := "sendMessage"

def fieldNames : List String := ["intent", "message", "prompt", "agent"]

/-- The agent that a field names. A blank field names none. -/
def agentOf (field : Option String) : Except Refusal (Option Id) :=
  match field.bind Text.trimmed? with
  | none => .ok none
  | some raw =>
    match Id.parse? raw with
    | some id => .ok (some id)
    | none => .error (.invalidField "agent" "Invalid agent")

/-- Reads the fields of a form; the first fault counts. -/
def ofFields (fields : List (String × String)) : Except Refusal Sending :=
  if (fields.lookup "intent").map Text.trim ≠ some intent then
    .error (.invalidField "intent" "Invalid intent")
  else match (fields.lookup "message").bind Text.trimmed? with
    | none => .error (.invalidField "message" "Message is required")
    | some message => do
      let agent ← agentOf (fields.lookup "agent")
      return ⟨message, (fields.lookup "prompt").bind Text.trimmed?, agent⟩

/-- The first prompt that is not blank, or the default as it stands. -/
def systemPrompt (prompts : List (Option String)) (default : String) : String :=
  (prompts.findSome? fun p => p.bind Text.trimmed?).getD default

/-- The chat that a message goes to: one that is there, or one that has still to be made. -/
def chatFor : Option Id → Handler (Option Chat)
  | none => return none
  | some id => do
    let found ← Handler.chats (.get id) "Could not load chat"
    return some (← Handler.orAbsent found "Chat" id)

/-- The plan of the agent that was chosen, or that of a plain conversation. -/
def planFor (agent : Option Id) (systemPrompt : String) : Handler Plan :=
  match agent with
  | none => return .default systemPrompt
  | some id => do
    let found ← Handler.agents (.get id) "Could not load agent"
    let agent ← Handler.orAbsent found "Agent" id
    match Plan.ofAgent agent with
    | .ok plan => return plan
    | .error _ => Handler.refuse (.internal "Agent definition is invalid")

/-- Saves the message in a chat that is there. -/
def saveIn (s : Sending) (chat : Chat) : Handler Turn := do
  let sent ← Handler.chats (.addMessage chat.id .human s.message) "Could not send message"
  return Turn.new chat.id sent.id false

/-- Makes a chat for the message. It goes again if the message cannot be saved. -/
def saveInNew (s : Sending) (agent : Option Id) : Handler Turn := do
  let stamp ← Handler.stamp
  let chat := Chat.new stamp (Chat.nameOf s.message) ⟨s.prompt, agent⟩
  let chat ← Handler.chats (.create chat) "Could not create chat"
  match ← (Task.chats (.addMessage chat.id .human s.message) : Task _) with
  | .ok sent => return Turn.new chat.id sent.id true
  | .error _ =>
    let _ ← (Task.chats (.delete chat.id) : Task _)
    Handler.refuse (.internal "Could not create chat")

/-- The stream of the answer. -/
def answer (plan : Plan) (context : Context) : Handler Stream := do
  match ← (plan.run context : Task _) with
  | (_, .ok stream) => return stream
  | (_, .error _) => Handler.refuse (.internal "Could not generate a response")

/-- Makes the message that the reply goes to. -/
def holdPlace (turn : Turn) : Handler (Id × Turn) := do
  let message := "Could not create AI message"
  let reply ← Handler.chats (.addMessage turn.chatId .ai "") message
  match turn.placeholderCreated reply.id with
  | .ok turn => return (reply.id, turn)
  | .error _ => Handler.refuse (.internal message)

def response (reply : Id) (turn : Turn) (stream : Stream) : Http.Response :=
  { status := 200
    headers := [("content-type", Http.Response.plainText), ("x-ai-message-id", reply.text),
      ("x-chat-id", turn.chatId.text), ("x-sent-message-id", turn.userMessageId.text),
      ("x-redirect", turn.redirect?.getD "")]
    body := .ofTurn turn stream }

/-- Sends a message, with a prompt to fall back on where no other is set. -/
def send (default : String) (chatId : Option Id) (s : Sending) : Handler Http.Response := do
  let chat ← chatFor chatId
  let shared ← Handler.chats .settings "Could not load settings"
  let agent := (chat.bind (·.settings.agentId)).or s.agent
  let prompts := [s.prompt, chat.bind (·.settings.prompt), shared.prompt]
  let plan ← planFor agent (systemPrompt prompts default)
  let turn ← match chat with
    | some chat => s.saveIn chat
    | none => s.saveInNew agent
  let history := (chat.map Chat.history).getD []
  let stream ← answer plan (.ofHistory s.message history)
  let (reply, turn) ← holdPlace turn
  return response reply turn stream

end Sending

end Parley
