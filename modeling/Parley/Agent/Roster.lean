import Parley.Agent.Form
import Parley.Json.Printer
import Parley.Store.Vault

/-!
# The roster of all agents

A `Roster` holds every agent that was saved. `AgentCall` names what may be asked of it,
`Roster.decide` answers without changing anything, and `AgentVault.perform` carries the answer out.
-/

namespace Parley

structure Roster where
  agents : List Agent := []
  deriving DecidableEq

namespace Roster

def find? (r : Roster) (id : Id) : Option Agent := r.agents.find? (·.id = id)

def contains (r : Roster) (id : Id) : Bool := r.agents.any (·.id = id)

def insert (r : Roster) (a : Agent) : Roster := ⟨r.agents ++ [a]⟩

def erase (r : Roster) (id : Id) : Roster := ⟨r.agents.filter (·.id ≠ id)⟩

def replace (r : Roster) (a : Agent) : Roster :=
  ⟨r.agents.map fun b => if b.id = a.id then a else b⟩

/-- Newest first. -/
def summaries (r : Roster) : List AgentSummary :=
  (r.agents.mergeSort fun a b => !a.createdAt.isBefore b.createdAt).map Agent.summary

/-- Of agents with one identifier, the last counts. -/
def ofAgents (agents : List Agent) : Roster :=
  agents.foldl (fun r a => (r.erase a.id).insert a) {}

def toJson (r : Roster) : Json := .list (r.agents.map Agent.toJson)

def text (r : Roster) : String := r.toJson.pretty

def decoder : Json.Decoder (Stamped Roster) := fun j => do
  let agents ← Json.asList Agent.decoder j
  return do return ofAgents (← agents.mapM id)

end Roster

inductive AgentCall
  | create (agent : Agent)
  | get (id : Id)
  | list
  | update (agent : Agent)
  | delete (id : Id)

namespace AgentCall

abbrev Reply : AgentCall → Type
  | create _ => Agent
  | get _ => Option Agent
  | list => List AgentSummary
  | update _ => Agent
  | delete _ => Bool

/-- The reply that says that something is not there, for calls that have one. -/
def absent? : (c : AgentCall) → Option c.Reply
  | create _ => none
  | get _ => some none
  | list => none
  | update _ => none
  | delete _ => some false

def replyJson : (c : AgentCall) → c.Reply → Json
  | create _, agent => agent.toJson
  | get _, agent => Json.ofOption Agent.toJson agent
  | list, agents => .list (agents.map AgentSummary.toJson)
  | update _, agent => agent.toJson
  | delete _, done => .bool done

end AgentCall

namespace Roster

def decide (r : Roster) (stamp : Stamp) : (c : AgentCall) → Decision Roster c.Reply
  | .create agent =>
    if r.contains agent.id then
      .error (.invalidInput s!"Agent with ID {agent.id.text} already exists")
    else .ok (agent, some (r.insert agent))
  | .get id => .ok (r.find? id, none)
  | .list => .ok (r.summaries, none)
  | .update agent =>
    match r.find? agent.id with
    | none => .error (.agentNotFound agent.id.text)
    | some old =>
      let agent := { agent with createdAt := old.createdAt, updatedAt := stamp.time }
      .ok (agent, some (r.replace agent))
  | .delete id => if r.contains id then .ok (true, some (r.erase id)) else .ok (false, none)

end Roster

abbrev AgentVault := Vault Roster

namespace AgentVault

/-- Reads what is in the slot. -/
def openSlot (slot : Slot) : Stamped (Except StoreError AgentVault) :=
  match slot.read with
  | .error e => pure (.error e)
  | .ok none => pure (.ok ⟨{}, slot⟩)
  | .ok (some text) =>
    match Json.decode Roster.decoder text with
    | .ok roster => do return .ok ⟨← roster, slot⟩
    | .error _ => pure (.error .serialization)

def perform (v : AgentVault) (stamp : Stamp) (c : AgentCall) :
    Except StoreError c.Reply × AgentVault :=
  v.carryOut Roster.text (v.memory.decide stamp c)

end AgentVault

end Parley
