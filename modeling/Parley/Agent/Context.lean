import Parley.Chat.Basic

/-!
# What a turn knows

A `Context` binds names to texts: first the prompt and the transcript of the chat, then the output
of each step that has run. A name that is bound keeps its text.
-/

namespace Parley

/-- A message shown to the model. -/
structure PromptMessage where
  role : Sender
  content : String
  deriving DecidableEq

/-- The line of a transcript. -/
def PromptMessage.line (m : PromptMessage) : String :=
  match m.role with
  | .human => "Human: " ++ m.content
  | .ai => "AI: " ++ m.content

structure Context where
  bindings : List (String × String)
  history : List PromptMessage
  deriving DecidableEq

namespace Context

def promptName : String := "prompt"

def transcriptName : String := "chat_history"

def transcript (history : List PromptMessage) : String :=
  "\n".intercalate (history.map PromptMessage.line)

def new (prompt : String) (history : List PromptMessage) : Context :=
  ⟨[(promptName, prompt), (transcriptName, transcript history)], history⟩

def ofHistory (prompt : String) (history : List (Sender × String)) : Context :=
  new prompt (history.map fun (role, content) => ⟨role, content⟩)

def get? (c : Context) (name : String) : Option String := c.bindings.lookup name

/-- The text bound to a name, or none. -/
def value (c : Context) (name : String) : String := (c.get? name).getD ""

/-- The name is bound to a text that is not empty. -/
def isSet (c : Context) (name : String) : Bool := c.value name ≠ ""

def isBound (c : Context) (name : String) : Bool := (c.get? name).isSome

def prompt (c : Context) : String := c.value promptName

def hasHistory (c : Context) : Bool := !c.history.isEmpty

/-- Binds a name unless it is bound. -/
def record (c : Context) (name text : String) : Context :=
  if c.isBound name then c else { c with bindings := c.bindings ++ [(name, text)] }

theorem get?_record (c : Context) (name key text : String) :
    (c.record key text).get? name =
      (c.get? name).or (if name = key then some text else none) := by
  unfold record
  split
  · next h =>
    by_cases e : name = key
    · subst e
      obtain ⟨v, hv⟩ := Option.isSome_iff_exists.1 h
      simp [hv]
    · simp [e]
  · by_cases h : name = key
    · simp [get?, List.lookup_append, h]
    · have hn : (name == key) = false := beq_false_of_ne h
      simp [get?, List.lookup_append, List.lookup_cons, h, hn]

theorem history_record (c : Context) (name text : String) :
    (c.record name text).history = c.history := by
  unfold record; split <;> rfl

end Context

end Parley
