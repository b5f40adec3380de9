import Parley.Stamp

/-!
# Chats

A chat is a list of messages in the order they were sent, with settings of its own. A listing shows
its name and its last message.
-/

namespace Parley

inductive Sender
  | human
  | ai
  deriving DecidableEq, Inhabited

def Sender.name : Sender → String
  | human => "human"
  | ai => "ai"

structure Message where
  id : Id
  chatId : Id
  sender : Sender
  content : String
  createdAt : Timestamp
  deriving DecidableEq

def Message.new (stamp : Stamp) (chatId : Id) (sender : Sender) (content : String) : Message :=
  ⟨stamp.id, chatId, sender, content, stamp.time⟩

structure ChatSettings where
  prompt : Option String := none
  agentId : Option Id := none
  deriving DecidableEq, Inhabited

/-- Settings that hold for all chats. -/
structure GlobalSettings where
  prompt : Option String := none
  deriving DecidableEq, Inhabited

structure Chat where
  id : Id
  name : String
  messages : List Message := []
  settings : ChatSettings := {}
  createdAt : Timestamp
  updatedAt : Timestamp
  deriving DecidableEq

structure LastMessage where
  content : String
  sender : Sender
  deriving DecidableEq

structure ChatSummary where
  id : Id
  name : String
  lastMessage : Option LastMessage
  createdAt : Timestamp
  deriving DecidableEq

namespace Chat

def new (stamp : Stamp) (name : String) (settings : ChatSettings := {}) : Chat :=
  { id := stamp.id, name, settings, createdAt := stamp.time, updatedAt := stamp.time }

def nameLength : Nat := 36

/-- The first characters of a message, with dots where more followed. -/
def nameOf (message : String) : String :=
  let cs := message.toList
  if nameLength < cs.length then String.ofList (cs.take nameLength) ++ "..." else message

def history (c : Chat) : List (Sender × String) := c.messages.map fun m => (m.sender, m.content)

def message? (c : Chat) (id : Id) : Option Message := c.messages.find? (·.id = id)

def summary (c : Chat) : ChatSummary :=
  { id := c.id
    name := c.name
    lastMessage := c.messages.getLast?.map fun m => ⟨m.content, m.sender⟩
    createdAt := c.createdAt }

end Chat

end Parley
