import Parley.Agent.Basic
import Parley.Agent.Context
import Parley.Error
import Parley.Pattern.Reader

/-!
# Gates

A step's gate decides whether it runs: the chat has to have messages if the step asks for that, and
every condition has to hold. A condition without a pattern, or with a blank one, asks for a text
that is not empty.
-/

namespace Parley

/-- A condition whose pattern has been read. -/
structure Check where
  name : String
  pattern : Option Regex

namespace Check

def ofCondition (c : Condition) : Except DefinitionFault Check :=
  match c.pattern.bind Text.trimmed? with
  | none => .ok ⟨c.name, none⟩
  | some raw =>
    match Regex.parse? raw with
    | some pattern => .ok ⟨c.name, some pattern⟩
    | none => .error (.badPattern raw c.name)

def accepts (c : Check) (text : String) : Bool := c.pattern.all (·.search text)

/-- The name is bound to a text that is not empty and has the pattern in it. -/
def holds (c : Check) (context : Context) : Bool :=
  context.isSet c.name && c.accepts (context.value c.name)

end Check

structure Gate where
  needsHistory : Bool
  checks : List Check

namespace Gate

def ofStep (s : Step) : Except DefinitionFault Gate := do
  return ⟨s.onlyIfPreviousMessages, ← s.conditions.mapM Check.ofCondition⟩

def passes (g : Gate) (context : Context) (hasHistory : Bool) : Bool :=
  (hasHistory || !g.needsHistory) && g.checks.all (·.holds context)

end Gate

end Parley
