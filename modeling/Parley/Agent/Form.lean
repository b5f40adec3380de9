import Parley.Agent.Basic
import Parley.Chat.Form

/-!
# Agents as JSON

A step may come without an identifier, and then gets a new one.
-/

namespace Parley

open Json

def Condition.toJson (c : Condition) : Json :=
  .object [("variable", .text c.name), ("regex", ofOption .text c.pattern)]

def Condition.decoder : Decoder Condition :=
  asRecord ["variable", "regex"] fun f =>
    (Checked.of Condition.mk)
      |>.apply (f.required "variable" asText)
      |>.apply (f.withDefault "regex" (asOption asText) none)

def SeedMessage.toJson (m : SeedMessage) : Json :=
  .object [("from", m.sender.toJson), ("content", .text m.content)]

def SeedMessage.decoder : Decoder SeedMessage :=
  asRecord ["from", "content"] fun f =>
    (Checked.of SeedMessage.mk)
      |>.apply (f.required "from" Sender.decoder)
      |>.apply (f.required "content" asText)

def Step.toJson (s : Step) : Json :=
  .object [("id", s.id.toJson), ("name", .text s.name), ("systemTemplate", .text s.systemTemplate),
    ("messageTemplate", .text s.messageTemplate),
    ("includeChatHistory", .bool s.includeChatHistory),
    ("onlyIfPreviousMessages", .bool s.onlyIfPreviousMessages),
    ("conditions", .list (s.conditions.map Condition.toJson)),
    ("messages", .list (s.messages.map SeedMessage.toJson))]

/-- The identifier that was given, or a new one. -/
def idOrNew : Option Id → Stamped Id
  | some id => pure id
  | none => do return (← Stamped.draw).id

def Step.withIdOrNew (id : Option Id) (make : Id → Step) : Stamped Step := do
  return make (← idOrNew id)

def Step.decoder : Decoder (Stamped Step) :=
  asRecord ["id", "name", "systemTemplate", "messageTemplate", "includeChatHistory",
      "onlyIfPreviousMessages", "conditions", "messages"] fun f =>
    (Checked.of fun id name system message history previous conditions messages =>
        Step.withIdOrNew id fun id =>
          Step.mk id name system message history previous conditions messages)
      |>.apply (f.withDefault "id" (fun j => (Id.decoder j).map some) none)
      |>.apply (f.required "name" asText)
      |>.apply (f.required "systemTemplate" asText)
      |>.apply (f.required "messageTemplate" asText)
      |>.apply (f.withDefault "includeChatHistory" asFlag false)
      |>.apply (f.withDefault "onlyIfPreviousMessages" asFlag false)
      |>.apply (f.withDefault "conditions" (asList Condition.decoder) [])
      |>.apply (f.withDefault "messages" (asList SeedMessage.decoder) [])

def stepsDecoder : Decoder (Stamped (List Step)) := fun j => do
  let steps ← asList Step.decoder j
  return steps.mapM id

def Visibility.toJson (v : Visibility) : Json := .text v.name

def Visibility.decoder : Decoder Visibility := asCase [("private", .personal), ("public", .shared)]

def Agent.toJson (a : Agent) : Json :=
  .object [("id", a.id.toJson), ("name", .text a.name), ("visibility", a.visibility.toJson),
    ("steps", .list (a.steps.map Step.toJson)), ("createdAt", a.createdAt.toJson),
    ("updatedAt", a.updatedAt.toJson)]

def Agent.withSteps (steps : Stamped (List Step)) (make : List Step → Agent) : Stamped Agent := do
  return make (← steps)

def Agent.decoder : Decoder (Stamped Agent) :=
  asRecord ["id", "name", "visibility", "steps", "createdAt", "updatedAt"] fun f =>
    (Checked.of fun id name visibility steps created updated =>
        Agent.withSteps steps fun steps => Agent.mk id name visibility steps created updated)
      |>.apply (f.required "id" Id.decoder)
      |>.apply (f.required "name" asText)
      |>.apply (f.withDefault "visibility" Visibility.decoder .personal)
      |>.apply (f.required "steps" stepsDecoder)
      |>.apply (f.required "createdAt" Timestamp.decoder)
      |>.apply (f.required "updatedAt" Timestamp.decoder)

def AgentSummary.toJson (s : AgentSummary) : Json :=
  .object [("id", s.id.toJson), ("name", .text s.name), ("stepCount", .nat s.stepCount)]

def AgentSummary.decoder : Decoder AgentSummary :=
  asRecord ["id", "name", "stepCount"] fun f =>
    (Checked.of AgentSummary.mk)
      |>.apply (f.required "id" Id.decoder)
      |>.apply (f.required "name" asText)
      |>.apply (f.required "stepCount" (asNat Text.largestWord))

end Parley
