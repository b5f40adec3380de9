import Parley.Http.Form
import Parley.Http.Received
import Parley.Model.Wire
import Parley.Reply.Decoder
import Parley.Server.Sending

/-!
# Talking to a chat server

A `ChatClient` posts a message as a form. The identifiers come back in headers, and the reply as the
frames of the body.
-/

namespace Parley

structure ChatClient where
  baseUrl : String

/-- A message that a server took, with the body of the reply to it. -/
structure SentMessage where
  replyId : Id
  chatId : Id
  messageId : Id
  redirect : Option String
  body : List Reply.Chunk

namespace ChatClient

def url (c : ChatClient) : Option Id → String
  | some id => trimSlashes c.baseUrl ++ "/api/chat/" ++ id.text
  | none => trimSlashes c.baseUrl ++ "/api/chat"

def fields (s : Sending) : List (String × String) :=
  [("intent", Sending.intent), ("message", s.message)] ++
    (s.prompt.map fun prompt => ("prompt", prompt)).toList ++
    (s.agent.map fun id => ("agent", id.text)).toList

def post (c : ChatClient) (chat : Option Id) (s : Sending) : Http.Post :=
  { url := c.url chat
    headers := [("content-type", Http.Request.formType)]
    body := Http.Form.encode (fields s) }

def idHeader (r : Http.Received) (name : String) : Except ProtocolFault Id :=
  match r.header? name with
  | none => .error (.missingHeader name)
  | some value =>
    match Id.parse? value with
    | some id => .ok id
    | none => .error (.badHeader name)

def body (r : Http.Received) : List Reply.Chunk :=
  r.chunks.map .ok ++ if r.broken then [.error ""] else []

def sent (r : Http.Received) : Except ProtocolFault SentMessage := do
  let replyId ← idHeader r "x-ai-message-id"
  let chatId ← idHeader r "x-chat-id"
  let messageId ← idHeader r "x-sent-message-id"
  return ⟨replyId, chatId, messageId, (r.header? "x-redirect").filter (· ≠ ""), body r⟩

/-- What a message that was posted to a chat led to. -/
def accept (chat : Option Id) : Option Http.Received → Except RunError SentMessage
  | none => .error (.protocol .unreachable)
  | some r =>
    if r.status = 404 then .error (.notFound "chat" ((chat.map Id.text).getD ""))
    else if r.isSuccess then (sent r).mapError .protocol
    else .error (.protocol (.refused r.statusText r.text))

end ChatClient

/-- The whole reply and whether it is complete. -/
def SentMessage.reply (m : SentMessage) : Except ProtocolFault (String × Bool) := do
  let (texts, signal) := Reply.separate none (Reply.decode m.body)
  return ("".intercalate (← texts.mapM id), signal.getD false)

end Parley
