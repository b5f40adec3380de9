import Parley.Chat.Basic

/-!
# Agents

An agent is a sequence of steps. All but the last prepare texts that later steps may use, each under
the name of its step; the last one answers. Conditions say when a step runs.
-/

namespace Parley

/-- A name that has to hold a text, and possibly a pattern that the text has to match. -/
structure Condition where
  name : String
  pattern : Option String := none
  deriving DecidableEq

/-- A message shown to the model in front of the chat. -/
structure SeedMessage where
  sender : Sender
  content : String
  deriving DecidableEq

structure Step where
  id : Id
  name : String
  systemTemplate : String
  messageTemplate : String
  includeChatHistory : Bool := false
  onlyIfPreviousMessages : Bool := false
  conditions : List Condition := []
  messages : List SeedMessage := []
  deriving DecidableEq

namespace Step

def withChatHistory (s : Step) : Step := { s with includeChatHistory := true }

def withPreviousMessages (s : Step) : Step := { s with onlyIfPreviousMessages := true }

def withCondition (s : Step) (c : Condition) : Step := { s with conditions := s.conditions ++ [c] }

def withMessage (s : Step) (m : SeedMessage) : Step := { s with messages := s.messages ++ [m] }

/-- The step runs on every turn. -/
def isUnconditional (s : Step) : Bool := s.conditions.isEmpty && !s.onlyIfPreviousMessages

end Step

inductive Visibility
  | personal
  | shared
  deriving DecidableEq, Inhabited

def Visibility.name : Visibility → String
  | .personal => "private"
  | .shared => "public"

structure Agent where
  id : Id
  name : String
  visibility : Visibility := .personal
  steps : List Step
  createdAt : Timestamp
  updatedAt : Timestamp
  deriving DecidableEq

structure AgentSummary where
  id : Id
  name : String
  stepCount : Nat
  deriving DecidableEq

namespace Agent

def new (stamp : Stamp) (name : String) (steps : List Step) : Agent :=
  { id := stamp.id, name, steps, createdAt := stamp.time, updatedAt := stamp.time }

def summary (a : Agent) : AgentSummary := ⟨a.id, a.name, a.steps.length⟩

end Agent

end Parley
