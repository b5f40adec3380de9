/-!
# States of a turn

A turn starts when the human message is saved. Its reply first gets an empty message that holds its
place, which is then either filled in or deleted.
-/

namespace Parley.Turn

inductive State
  | userMessageSaved
  | aiPlaceholderCreated
  | aiMessageFinalized
  | aiMessageDeleted
  deriving DecidableEq, Inhabited

namespace State

def isTerminal : State → Bool
  | aiMessageFinalized => true
  | aiMessageDeleted => true
  | _ => false

def canBecome : State → State → Bool
  | userMessageSaved, aiPlaceholderCreated => true
  | aiPlaceholderCreated, aiMessageFinalized => true
  | aiPlaceholderCreated, aiMessageDeleted => true
  | _, _ => false

def all : List State :=
  [userMessageSaved, aiPlaceholderCreated, aiMessageFinalized, aiMessageDeleted]

/-- The name in messages. -/
def title : State → String
  | userMessageSaved => "UserMessageSaved"
  | aiPlaceholderCreated => "AiPlaceholderCreated"
  | aiMessageFinalized => "AiMessageFinalized"
  | aiMessageDeleted => "AiMessageDeleted"

/-- The name in records. -/
def name : State → String
  | userMessageSaved => "user_message_saved"
  | aiPlaceholderCreated => "ai_placeholder_created"
  | aiMessageFinalized => "ai_message_finalized"
  | aiMessageDeleted => "ai_message_deleted"

def ofName? (s : String) : Option State := all.find? (·.name = s)

end State

end Parley.Turn
