import Parley.Agent.Plan
import Parley.Task

/-!
# Running a plan

The gated prompts run in order. What each one brings, or nothing if its gate is shut, is bound to
the name of its step before the next gate is looked at. The last prompt opens the stream of the
answer. The first failure ends the run.
-/

namespace Parley.Plan

/-- The context after the gated prompts, or after those before the first failure. -/
def prepare : List GatedPrompt → Context → Task (Context × Except RunError Unit)
  | [], c => return (c, .ok ())
  | g :: rest, c => do
    if g.gate.passes c c.hasHistory then
      match ← Task.invoke (g.prompt.request c) with
      | .error e => return (c, .error e)
      | .ok text => prepare rest (c.record g.prompt.stepName text)
    else prepare rest (c.record g.prompt.stepName "")

def run (p : Plan) (c : Context) : Task (Context × Except RunError Stream) := do
  match ← prepare p.gated c with
  | (c, .error e) => return (c, .error e)
  | (c, .ok ()) => return (c, ← Task.openStream (p.answer.request c))

end Parley.Plan
