import Parley.Agent.Gate
import Parley.Agent.Template
import Parley.Model.Request

/-!
# Plans

A `Plan` is an agent that has been checked: prompts behind gates, and one last prompt whose output
is the answer. `Plan.ofAgent` says what is wrong with an agent that cannot be run: names have to be
distinct, not blank and not taken by the turn itself, conditions look at earlier steps only, and the
last step has no conditions.
-/

namespace Parley

/-- What a step asks the model, up to the texts known only when it runs. -/
structure Prompt where
  stepName : String
  systemTemplate : String
  messageTemplate : String
  includeHistory : Bool
  seeds : List SeedMessage

namespace Prompt

def ofStep (s : Step) : Prompt :=
  { stepName := Text.trim s.name
    systemTemplate := s.systemTemplate
    messageTemplate := s.messageTemplate
    includeHistory := s.includeChatHistory
    seeds := s.messages }

def request (p : Prompt) (context : Context) : Request :=
  { systemPrompt := Template.render context p.systemTemplate
    history := p.seeds.map (fun m => ⟨m.sender, Template.render context m.content⟩) ++
      if p.includeHistory then context.history else []
    humanPrompt := Template.render context p.messageTemplate }

end Prompt

/-- A step that prepares a text for later ones. -/
structure GatedPrompt where
  gate : Gate
  prompt : Prompt

structure Plan where
  agentId : Option Id
  name : String
  gated : List GatedPrompt
  answer : Prompt

namespace Plan

/-- The plan for a chat without an agent: the system prompt as it stands, and the whole chat. -/
def default (systemPrompt : String) : Plan :=
  { agentId := none
    name := "DefaultConversation"
    gated := []
    answer :=
      { stepName := "answer"
        systemTemplate := Template.escape systemPrompt
        messageTemplate := "\x7b" ++ Context.promptName ++ "\x7d"
        includeHistory := true
        seeds := [] } }

def prompts (p : Plan) : List Prompt := p.gated.map (·.prompt) ++ [p.answer]

/-- Names that are bound before any step runs. -/
def isReserved (name : String) : Bool := name = Context.promptName || name = Context.transcriptName

/-- The first condition that looks at something other than the prompt or an earlier step. -/
def strayCondition? (earlier : List String) (s : Step) : Option Condition :=
  s.conditions.find? fun c => c.name ≠ Context.promptName && !earlier.contains c.name

/-- The trimmed name of the step at a position, unless the name or a condition is wrong. -/
def checkStep (earlier : List String) (position : Nat) (s : Step) :
    Except DefinitionFault String :=
  let name := Text.trim s.name
  if name = "" then .error (.emptyName position)
  else if isReserved name then .error (.reservedName name)
  else match strayCondition? earlier s with
    | some c => .error (.unknownName name c.name)
    | none => if earlier.contains name then .error (.duplicateName name) else .ok name

/-- The gated prompts and the last one. `earlier` holds the names so far. -/
def ofSteps (earlier : List String) (position : Nat) :
    List Step → Except DefinitionFault (List GatedPrompt × Prompt)
  | [] => .error .noSteps
  | [last] => do
    let _ ← checkStep earlier position last
    if last.isUnconditional then return ([], .ofStep last) else throw .conditionalEnd
  | s :: rest => do
    let name ← checkStep earlier position s
    let gate ← Gate.ofStep s
    let (gated, answer) ← ofSteps (name :: earlier) (position + 1) rest
    return (⟨gate, .ofStep s⟩ :: gated, answer)

def ofAgent (a : Agent) : Except DefinitionFault Plan := do
  let (gated, answer) ← ofSteps [] 1 a.steps
  return ⟨some a.id, a.name, gated, answer⟩

end Plan

end Parley
