import Parley.Chat.Basic
import Parley.Json.Decoder

/-!
# Chats as JSON
-/

namespace Parley

open Json

def Id.toJson (i : Id) : Json := .text i.text

def Id.decoder : Decoder Id := asParsed Id.parse?

def Timestamp.toJson (t : Timestamp) : Json := .text t.text

def Timestamp.decoder : Decoder Timestamp := asParsed Timestamp.parse?

def Sender.toJson (s : Sender) : Json := .text s.name

def Sender.decoder : Decoder Sender := asCase [("human", .human), ("ai", .ai)]

def Message.toJson (m : Message) : Json :=
  .object [("id", m.id.toJson), ("chatId", m.chatId.toJson), ("sender", m.sender.toJson),
    ("content", .text m.content), ("createdAt", m.createdAt.toJson)]

def Message.decoder : Decoder Message :=
  asRecord ["id", "chatId", "sender", "content", "createdAt"] fun f =>
    (Checked.of Message.mk)
      |>.apply (f.required "id" Id.decoder)
      |>.apply (f.required "chatId" Id.decoder)
      |>.apply (f.required "sender" Sender.decoder)
      |>.apply (f.required "content" asText)
      |>.apply (f.required "createdAt" Timestamp.decoder)

def ChatSettings.toJson (s : ChatSettings) : Json :=
  .object [("prompt", ofOption .text s.prompt), ("agentId", ofOption Id.toJson s.agentId)]

def ChatSettings.decoder : Decoder ChatSettings :=
  asRecord ["prompt", "agentId"] fun f =>
    (Checked.of ChatSettings.mk)
      |>.apply (f.withDefault "prompt" (asOption asText) none)
      |>.apply (f.withDefault "agentId" (asOption Id.decoder) none)

def GlobalSettings.toJson (s : GlobalSettings) : Json :=
  .object [("prompt", ofOption .text s.prompt)]

def GlobalSettings.decoder : Decoder GlobalSettings :=
  asRecord ["prompt"] fun f =>
    (Checked.of GlobalSettings.mk)
      |>.apply (f.withDefault "prompt" (asOption asText) none)

def Chat.toJson (c : Chat) : Json :=
  .object [("id", c.id.toJson), ("name", .text c.name),
    ("messages", .list (c.messages.map Message.toJson)), ("settings", c.settings.toJson),
    ("createdAt", c.createdAt.toJson), ("updatedAt", c.updatedAt.toJson)]

def Chat.decoder : Decoder Chat :=
  asRecord ["id", "name", "messages", "settings", "createdAt", "updatedAt"] fun f =>
    (Checked.of Chat.mk)
      |>.apply (f.required "id" Id.decoder)
      |>.apply (f.required "name" asText)
      |>.apply (f.withDefault "messages" (asList Message.decoder) [])
      |>.apply (f.withDefault "settings" ChatSettings.decoder {})
      |>.apply (f.required "createdAt" Timestamp.decoder)
      |>.apply (f.required "updatedAt" Timestamp.decoder)

def LastMessage.toJson (m : LastMessage) : Json :=
  .object [("content", .text m.content), ("sender", m.sender.toJson)]

def LastMessage.decoder : Decoder LastMessage :=
  asRecord ["content", "sender"] fun f =>
    (Checked.of LastMessage.mk)
      |>.apply (f.required "content" asText)
      |>.apply (f.required "sender" Sender.decoder)

def ChatSummary.toJson (s : ChatSummary) : Json :=
  .object [("id", s.id.toJson), ("name", .text s.name),
    ("lastMessage", ofOption LastMessage.toJson s.lastMessage), ("createdAt", s.createdAt.toJson)]

def ChatSummary.decoder : Decoder ChatSummary :=
  asRecord ["id", "name", "lastMessage", "createdAt"] fun f =>
    (Checked.of ChatSummary.mk)
      |>.apply (f.required "id" Id.decoder)
      |>.apply (f.required "name" asText)
      |>.apply (f.optional "lastMessage" LastMessage.decoder)
      |>.apply (f.required "createdAt" Timestamp.decoder)

end Parley
