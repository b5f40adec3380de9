import Parley.Chat.Form
import Parley.Model.Request

/-!
# Requests to a model as JSON
-/

namespace Parley

open Json

def PromptMessage.toJson (m : PromptMessage) : Json :=
  .object [("role", m.role.toJson), ("content", .text m.content)]

def PromptMessage.decoder : Decoder PromptMessage :=
  asRecord ["role", "content"] fun f =>
    (Checked.of PromptMessage.mk)
      |>.apply (f.required "role" Sender.decoder)
      |>.apply (f.required "content" asText)

namespace Request

def toJson (r : Request) : Json :=
  .object [("system_prompt", .text r.systemPrompt),
    ("history", .list (r.history.map PromptMessage.toJson)), ("human_prompt", .text r.humanPrompt)]

def decoder : Decoder Request :=
  asRecord ["system_prompt", "history", "human_prompt"] fun f =>
    (Checked.of Request.mk)
      |>.apply (f.required "system_prompt" asText)
      |>.apply (f.required "history" (asList PromptMessage.decoder))
      |>.apply (f.required "human_prompt" asText)

end Request

/-- What a model answers at once. -/
def outputJson (content : String) : Json := .object [("content", .text content)]

def outputDecoder : Decoder String :=
  asRecord ["content"] fun f => f.required "content" asText

end Parley
