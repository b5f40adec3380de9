import Parley.Chat.Basic
import Parley.Chat.Form
import Parley.Error
import Parley.Text.Blank

/-!
# Turns

A turn is one message of a human and the reply that is being made. The reply's text grows with what
the model sends, without the blanks at its start.
-/

namespace Parley

structure Turn where
  chatId : Id
  userMessageId : Id
  aiMessageId : Option Id := none
  createdChat : Bool
  aiText : String := ""
  state : Turn.State := .userMessageSaved
  deriving DecidableEq

namespace Turn

def new (chatId userMessageId : Id) (createdChat : Bool) : Turn :=
  { chatId, userMessageId, createdChat }

/-- Where the client goes on, if this turn made the chat. -/
def redirect? (t : Turn) : Option String :=
  if t.createdChat then some ("/chat/" ++ t.chatId.text) else none

def advance (t : Turn) (next : State) : Except RunError Turn :=
  if t.state.canBecome next then .ok { t with state := next }
  else .error (.transition t.state next)

def placeholderCreated (t : Turn) (id : Id) : Except RunError Turn := do
  return { ← t.advance .aiPlaceholderCreated with aiMessageId := some id }

def finalized (t : Turn) : Except RunError Turn := t.advance .aiMessageFinalized

def deleted (t : Turn) : Except RunError Turn := t.advance .aiMessageDeleted

/-- The part of a delta that is added to the text. -/
def appended (t : Turn) (delta : String) : String :=
  if t.aiText = "" then Text.trimStart delta else delta

def push (t : Turn) (delta : String) : Turn := { t with aiText := t.aiText ++ t.appended delta }

def toJson (t : Turn) : Json :=
  .object [("chat_id", t.chatId.toJson), ("user_message_id", t.userMessageId.toJson),
    ("ai_message_id", Json.ofOption Id.toJson t.aiMessageId),
    ("created_chat", .bool t.createdChat), ("ai_text", .text t.aiText),
    ("state", .text t.state.name)]

end Turn

end Parley
