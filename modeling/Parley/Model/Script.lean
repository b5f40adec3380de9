import Parley.Model.Stream

/-!
# Scripted models

A script lists what a model says. Where it lists nothing, the model repeats what it was asked.
-/

namespace Parley

inductive ScriptEnd
  | complete
  | hang
  | fail (detail : String)

structure Script where
  replies : List (Except String String) := []
  stream : Option (List String × ScriptEnd) := none
  startError : Option String := none
  invokeDelay : Nat := 0
  startDelay : Nat := 0
  chunkDelay : Nat := 0

namespace Script

def fault (detail : String) : RunError := .model (.other detail)

def feed (s : Script) (r : Request) : Feed :=
  let (chunks, ending) := s.stream.getD ([r.humanPrompt], .complete)
  let items := chunks.map fun text => { after := some s.chunkDelay, value := .ok text }
  match ending with
  | .complete => { items }
  | .hang => { items, ending := { after := none, value := () } }
  | .fail detail => { items := items ++ [.atOnce (.error (fault detail))] }

def model (s : Script) : Model where
  answer before r :=
    let reply := match s.replies[before]? with
      | some (.ok text) => .ok text
      | some (.error detail) => .error (fault detail)
      | none => .ok r.humanPrompt
    { after := some s.invokeDelay, value := reply }
  start _ r :=
    let opened := match s.startError with
      | some detail => .error (fault detail)
      | none => .ok (s.feed r)
    { after := some s.startDelay, value := opened }

end Script

end Parley
