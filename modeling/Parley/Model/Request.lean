import Parley.Agent.Context

/-!
# Requests to a model

A request holds a system prompt, messages that came before, oldest first, and what the human says.
-/

namespace Parley

structure Request where
  systemPrompt : String
  history : List PromptMessage
  humanPrompt : String
  deriving DecidableEq

end Parley
