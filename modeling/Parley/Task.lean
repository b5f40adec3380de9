import Parley.Agent.Roster
import Parley.Chat.Ledger
import Parley.Model.Stream

/-!
# Tasks

Work that asks the world around it for things is a `Task`: it is done, or it makes a call and goes
on with the reply. Every call is a place where the work may be dropped.
-/

namespace Parley

inductive Call
  | stamp
  | chats (c : ChatCall)
  | agents (c : AgentCall)
  | invoke (r : Request)
  | openStream (r : Request)

abbrev Call.Reply : Call → Type
  | stamp => Stamp
  | chats c => Except StoreError c.Reply
  | agents c => Except StoreError c.Reply
  | invoke _ => Except RunError String
  | openStream _ => Except RunError Stream

inductive Task (α : Type) : Type
  | done (a : α)
  | ask (c : Call) (k : c.Reply → Task α)

namespace Task

variable {α β : Type}

def bind : Task α → (α → Task β) → Task β
  | done a, f => f a
  | ask c k, f => ask c fun r => (k r).bind f

instance : Monad Task where
  pure := done
  bind := bind

def call (c : Call) : Task c.Reply := ask c done

def stamp : Task Stamp := call .stamp

def chats (c : ChatCall) : Task (Except StoreError c.Reply) := call (.chats c)

def agents (c : AgentCall) : Task (Except StoreError c.Reply) := call (.agents c)

def invoke (r : Request) : Task (Except RunError String) := call (.invoke r)

def openStream (r : Request) : Task (Except RunError Stream) := call (.openStream r)

/-- Runs a task in a state that answers its calls. A call without an answer ends the run. -/
def run {σ : Type} (answer : (c : Call) → σ → Option c.Reply × σ) : Task α → σ → Option α × σ
  | done a, s => (some a, s)
  | ask c k, s =>
    match answer c s with
    | (none, s) => (none, s)
    | (some r, s) => (k r).run answer s

theorem run_bind {σ : Type} (answer : (c : Call) → σ → Option c.Reply × σ) (t : Task α)
    (f : α → Task β) (s : σ) :
    (t.bind f).run answer s =
      match t.run answer s with
      | (none, s) => (none, s)
      | (some a, s) => (f a).run answer s := by
  induction t generalizing s with
  | done a => rfl
  | ask c k ih =>
    simp only [bind, run]
    cases answer c s with
    | mk r s' => cases r with
      | none => rfl
      | some r => exact ih r s'

end Task

end Parley
