import Parley.Json.Basic
import Parley.Model.Request

/-!
# Requests as a model server wants them
-/

namespace Parley

def Sender.wireRole : Sender → String
  | human => "user"
  | ai => "assistant"

namespace Request

/-- Roles and contents in order: the system prompt unless it is empty, what came before, and what
the human says. -/
def wireMessages (r : Request) : List (String × String) :=
  (if r.systemPrompt = "" then [] else [("system", r.systemPrompt)]) ++
    r.history.map (fun m => (m.role.wireRole, m.content)) ++ [("user", r.humanPrompt)]

/-- The body of a request to a model server. -/
def wireBody (r : Request) (model : String) (stream : Bool) : Json :=
  .object [("model", .text model),
    ("messages", .list (r.wireMessages.map fun (role, content) =>
      .object [("role", .text role), ("content", .text content)])),
    ("stream", .bool stream)]

end Request

/-- An address without slashes at its end. -/
def trimSlashes (s : String) : String :=
  String.ofList (s.toList.reverse.dropWhile (· = '/')).reverse

/-- The address that a model server takes requests at. -/
def completionsUrl (base : String) : String := trimSlashes base ++ "/chat/completions"

end Parley
