import Parley.Server.Address
import Parley.Server.World
import Parley.Text.Blank

/-!
# Setting up a server

A server takes its setup from named texts around it. What is blank or malformed counts as not given,
and then a default holds.
-/

namespace Parley

structure Setup where
  dataDirectory : String := ".chat-data"
  address : Address := ⟨.v4 [0, 0, 0, 0], 8081⟩
  modelUrl : String := "http://localhost:11434/v1"
  modelName : String := "llama3"
  modelKey : Option String := none
  /-- How long a step may take, in seconds. -/
  stepTime : Nat := 120
  /-- How long an answer may take, in seconds. -/
  streamTime : Nat := 300
  systemPrompt : String := "You are a helpful AI assistant."
  deriving DecidableEq

namespace Setup

def seconds? (s : String) : Option Nat := Text.unsigned? Text.largestWord (Text.Chars.trim s.toList)

/-- Reads a setup from what is set. -/
def ofVariables (get? : String → Option String) : Setup :=
  let default : Setup := {}
  let text := fun name => (get? name).bind Text.trimmed?
  { dataDirectory := (text "CHAT_DATA_DIR").getD default.dataDirectory
    address := ((get? "CHAT_BIND_ADDR").bind fun s => Address.parse? (Text.trim s)).getD
      default.address
    modelUrl := (text "MODEL_BASE_URL").getD default.modelUrl
    modelName := (text "MODEL_NAME").getD default.modelName
    modelKey := (get? "MODEL_API_KEY").filter fun s => !Text.blank s
    stepTime := ((get? "STEP_TIMEOUT_SECS").bind seconds?).getD default.stepTime
    streamTime := ((get? "STREAM_TIMEOUT_SECS").bind seconds?).getD default.streamTime
    systemPrompt := (text "DEFAULT_SYSTEM_PROMPT").getD default.systemPrompt }

def limits (s : Setup) : Limits := ⟨s.stepTime * 1000, s.streamTime * 1000⟩

end Setup

end Parley
