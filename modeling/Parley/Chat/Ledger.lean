import Parley.Chat.Form
import Parley.Json.Printer
import Parley.Store.Vault

/-!
# The ledger of all chats

A `Ledger` holds every chat and the settings for all of them. `ChatCall` names what may be asked of
it, `Ledger.decide` answers without changing anything, and `ChatVault.perform` carries the answer
out.
-/

namespace Parley

structure Ledger where
  chats : List Chat := []
  settings : GlobalSettings := {}
  deriving DecidableEq

namespace Chat

def addMessage (c : Chat) (m : Message) (now : Timestamp) : Chat :=
  { c with messages := c.messages ++ [m], updatedAt := now }

/-- Gives the first message with the identifier a new content. -/
def setContent (id : Id) (content : String) : List Message → List Message
  | [] => []
  | m :: ms => if m.id = id then { m with content } :: ms else m :: setContent id content ms

def updateMessage (c : Chat) (id : Id) (content : String) (now : Timestamp) : Chat :=
  { c with messages := setContent id content c.messages, updatedAt := now }

def deleteMessage (c : Chat) (id : Id) (now : Timestamp) : Chat :=
  { c with messages := c.messages.filter (·.id ≠ id), updatedAt := now }

def hasMessage (c : Chat) (id : Id) : Bool := c.messages.any (·.id = id)

end Chat

namespace Ledger

def find? (l : Ledger) (id : Id) : Option Chat := l.chats.find? (·.id = id)

def contains (l : Ledger) (id : Id) : Bool := l.chats.any (·.id = id)

def insert (l : Ledger) (c : Chat) : Ledger := { l with chats := l.chats ++ [c] }

def erase (l : Ledger) (id : Id) : Ledger := { l with chats := l.chats.filter (·.id ≠ id) }

def modify (l : Ledger) (id : Id) (f : Chat → Chat) : Ledger :=
  { l with chats := l.chats.map fun c => if c.id = id then f c else c }

/-- The chat that holds a message. -/
def chatOf? (l : Ledger) (message : Id) : Option Chat := l.chats.find? (·.hasMessage message)

/-- Newest first. -/
def summaries (l : Ledger) : List ChatSummary :=
  (l.chats.mergeSort fun a b => !a.createdAt.isBefore b.createdAt).map Chat.summary

/-- Of chats with one identifier, the last counts. -/
def ofChats (chats : List Chat) (settings : GlobalSettings) : Ledger :=
  chats.foldl (fun l c => (l.erase c.id).insert c) { settings }

def toJson (l : Ledger) : Json :=
  .object [("chats", .list (l.chats.map Chat.toJson)), ("globalSettings", l.settings.toJson)]

def text (l : Ledger) : String := l.toJson.pretty

def decoder : Json.Decoder Ledger :=
  Json.asRecord ["chats", "globalSettings"] fun f =>
    (Json.Checked.of ofChats)
      |>.apply (f.withDefault "chats" (Json.asList Chat.decoder) [])
      |>.apply (f.withDefault "globalSettings" GlobalSettings.decoder {})

end Ledger

inductive ChatCall
  | create (chat : Chat)
  | get (id : Id)
  | list
  | delete (id : Id)
  | addMessage (chatId : Id) (sender : Sender) (content : String)
  | updateMessage (id : Id) (content : String)
  | deleteMessage (id : Id)
  | settings
  | putSettings (settings : GlobalSettings)

namespace ChatCall

abbrev Reply : ChatCall → Type
  | create _ => Chat
  | get _ => Option Chat
  | list => List ChatSummary
  | delete _ => Bool
  | addMessage _ _ _ => Message
  | updateMessage _ _ => Bool
  | deleteMessage _ => Bool
  | settings => GlobalSettings
  | putSettings _ => GlobalSettings

/-- The reply that says that something is not there, for calls that have one. -/
def absent? : (c : ChatCall) → Option c.Reply
  | create _ => none
  | get _ => some none
  | list => none
  | delete _ => some false
  | addMessage _ _ _ => none
  | updateMessage _ _ => some false
  | deleteMessage _ => some false
  | settings => none
  | putSettings _ => none

def replyJson : (c : ChatCall) → c.Reply → Json
  | create _, chat => chat.toJson
  | get _, chat => Json.ofOption Chat.toJson chat
  | list, chats => .list (chats.map ChatSummary.toJson)
  | delete _, done => .bool done
  | addMessage _ _ _, message => message.toJson
  | updateMessage _ _, done => .bool done
  | deleteMessage _, done => .bool done
  | .settings, s => s.toJson
  | putSettings _, s => s.toJson

end ChatCall

namespace Ledger

/-- A message is changed in the chat that holds it, if there is one. -/
def changeMessage (l : Ledger) (message : Id) (f : Chat → Chat) : Bool × Option Ledger :=
  match l.chatOf? message with
  | none => (false, none)
  | some chat => (true, some (l.modify chat.id f))

def decide (l : Ledger) (stamp : Stamp) : (c : ChatCall) → Decision Ledger c.Reply
  | .create chat =>
    if l.contains chat.id then
      .error (.invalidInput s!"Chat with ID {chat.id.text} already exists")
    else .ok (chat, some (l.insert chat))
  | .get id => .ok (l.find? id, none)
  | .list => .ok (l.summaries, none)
  | .delete id => if l.contains id then .ok (true, some (l.erase id)) else .ok (false, none)
  | .addMessage chatId sender content =>
    if l.contains chatId then
      let m := Message.new stamp chatId sender content
      .ok (m, some (l.modify chatId (·.addMessage m stamp.time)))
    else .error (.chatNotFound chatId.text)
  | .updateMessage id content => .ok (l.changeMessage id (·.updateMessage id content stamp.time))
  | .deleteMessage id => .ok (l.changeMessage id (·.deleteMessage id stamp.time))
  | .settings => .ok (l.settings, none)
  | .putSettings settings => .ok (settings, some { l with settings })

end Ledger

abbrev ChatVault := Vault Ledger

namespace ChatVault

/-- Reads what is in the slot. -/
def openSlot (slot : Slot) : Except StoreError ChatVault := do
  match ← slot.read with
  | none => return ⟨{}, slot⟩
  | some text =>
    match Json.decode Ledger.decoder text with
    | .ok l => return ⟨l, slot⟩
    | .error _ => throw .serialization

def perform (v : ChatVault) (stamp : Stamp) (c : ChatCall) :
    Except StoreError c.Reply × ChatVault :=
  v.carryOut Ledger.text (v.memory.decide stamp c)

end ChatVault

end Parley
