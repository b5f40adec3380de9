import Parley.Reply.Frame
import Parley.Turn.Basic

/-!
# Relaying a reply

While a model's deltas are sent on, their text is collected for the message that holds the place of
the reply. A `Relay` waits for one thing at a time: the model, the final write of that message, or
its deletion. After the write or the deletion it is settled and has sent a status. A relay that is
dropped before it is settled leaves its message to be deleted.
-/

namespace Parley

inductive Relay.Phase
  | listening
  | saving
  | discarding
  | settled
  deriving DecidableEq

structure Relay where
  messageId : Id
  turn : Turn
  phase : Relay.Phase := .listening

namespace Relay

/-- What a relay hears: from the model, or from the store it asked to write or delete. -/
inductive Event
  | delta (text : String)
  | ended
  | failed
  | saved (outcome : Except StoreError Bool)
  | discarded (outcome : Except StoreError Bool)

/-- What a relay waits for. -/
inductive Demand
  | item
  | save (id : Id) (content : String)
  | discard (id : Id)
  | nothing

/-- The relay of a turn whose reply has a message to go to. -/
def ofTurn? (t : Turn) : Option Relay := t.aiMessageId.map fun id => { messageId := id, turn := t }

def demand (r : Relay) : Demand :=
  match r.phase with
  | .listening => .item
  | .saving => .save r.messageId r.turn.aiText
  | .discarding => .discard r.messageId
  | .settled => .nothing

/-- Dropping the relay now leaves its message to be deleted. -/
def isArmed (r : Relay) : Bool := r.phase ≠ .settled

/-- The turn after its reply was kept or given up. -/
def close (t : Turn) (s : Reply.Status) : Turn :=
  match if s.isSuccess then t.finalized else t.deleted with
  | .ok t => t
  | .error _ => t

def settle (r : Relay) (s : Reply.Status) : Relay × Reply.Bytes :=
  ({ r with phase := .settled, turn := close r.turn s }, Reply.encodeStatus s)

/-- The relay after an event, and the bytes that are sent then. -/
def step (r : Relay) (e : Event) : Relay × Reply.Bytes :=
  match r.phase, e with
  | .listening, .delta text => ({ r with turn := r.turn.push text }, Reply.encodeContent text)
  | .listening, .ended => ({ r with phase := .saving }, [])
  | .listening, .failed => ({ r with phase := .discarding }, [])
  | .saving, .saved (.ok true) => r.settle .success
  | .saving, .saved (.ok false) => r.settle .failure
  | .saving, .saved (.error _) => ({ r with phase := .discarding }, [])
  | .discarding, .discarded _ => r.settle .failure
  | _, _ => (r, [])

end Relay

end Parley
