import Parley.Text.Quoted
import Parley.Text.Utf8
import Parley.Time.Span
import Parley.Turn.State

/-!
# What can go wrong

`StoreError` is for the records, `DefinitionFault` for an agent that cannot be run, `ModelFault` for
the model, `ProtocolFault` for a reply that is not framed correctly, and `RunError` for a turn as a
whole. Each has its wording in `message`. Where another party's account of a fault ends a message,
the message stops in front of that account.
-/

namespace Parley

inductive StoreError
  | chatNotFound (id : String)
  | messageNotFound (id : String)
  | agentNotFound (id : String)
  | io (detail : String)
  | serialization
  | invalidInput (detail : String)
  | storage (detail : String)
  deriving DecidableEq

def StoreError.message : StoreError → String
  | chatNotFound id => "Chat not found: " ++ id
  | messageNotFound id => "Message not found: " ++ id
  | agentNotFound id => "Agent not found: " ++ id
  | io detail => "IO error: " ++ detail
  | serialization => "Serialization error: "
  | invalidInput detail => "Invalid input: " ++ detail
  | storage detail => "Storage error: " ++ detail

inductive DefinitionFault
  | noSteps
  | emptyName (position : Nat)
  | reservedName (name : String)
  | unknownName (step name : String)
  | duplicateName (name : String)
  | badPattern (pattern name : String)
  | conditionalEnd
  | noFinalUnit
  | other (detail : String)
  deriving DecidableEq

def DefinitionFault.message : DefinitionFault → String
  | noSteps => "agent must have at least one step"
  | emptyName position => s!"step {position} has an empty name"
  | reservedName name => s!"step name {Text.quoted name} is reserved"
  | unknownName step name =>
    s!"condition on step {Text.quoted step} references {Text.quoted name}, which is neither " ++
      "\"prompt\" nor an earlier step"
  | duplicateName name => s!"duplicate step name {Text.quoted name}"
  | badPattern pattern name =>
    s!"invalid regex {Text.quoted pattern} on variable {Text.quoted name}: "
  | conditionalEnd => "the last step must not have conditions or only-if-previous-messages"
  | noFinalUnit => "execution plan has no final unit"
  | other detail => detail

inductive ModelFault
  | malformedChunk
  | malformedCompletion
  | unreachable
  | broken
  | refused (status reply : String)
  | other (detail : String)
  deriving DecidableEq

def ModelFault.message : ModelFault → String
  | malformedChunk => "Malformed stream chunk: "
  | malformedCompletion => "Malformed completion: "
  | unreachable => "Failed to connect to model: "
  | broken => "Stream error: "
  | refused status reply => s!"Model returned {status}: {reply}"
  | other detail => detail

inductive ProtocolFault
  | notText (flaw : Text.Utf8.Flaw)
  | badStatus (shown : String)
  | cutStatus
  | noStatus
  | readFailed (detail : String)
  | unreachable
  | refused (status reply : String)
  | missingHeader (name : String)
  | badHeader (name : String)
  | other (detail : String)
  deriving DecidableEq

def ProtocolFault.message : ProtocolFault → String
  | notText flaw => "content is not valid UTF-8: " ++ flaw.message
  | badStatus shown => "invalid status " ++ Text.quoted shown
  | cutStatus => "stream ended before the status token was complete"
  | noStatus => "stream ended without a status"
  | readFailed detail => "body read failed: " ++ detail
  | unreachable => "Failed to reach chat server: "
  | refused status reply => s!"Chat server returned {status}: {reply}"
  | missingHeader name => s!"missing {name} header"
  | badHeader name => s!"invalid {name} header: "
  | other detail => detail

inductive RunError
  | definition (fault : DefinitionFault)
  | model (fault : ModelFault)
  | timeout (after : Span)
  | cancelled
  | persistence (fault : StoreError)
  | notFound (kind id : String)
  | protocol (fault : ProtocolFault)
  | transition (source target : Turn.State)
  deriving DecidableEq

def RunError.message : RunError → String
  | definition fault => "Invalid agent definition: " ++ fault.message
  | model fault => "Model invocation failed: " ++ fault.message
  | timeout after => "Model call timed out after " ++ after.text
  | cancelled => "Run cancelled"
  | persistence fault => "Persistence error: " ++ fault.message
  | notFound kind id => s!"{kind} not found: {id}"
  | protocol fault => "Protocol error: " ++ fault.message
  | transition source target =>
    s!"Invalid turn transition from {source.title} to {target.title}"

end Parley
