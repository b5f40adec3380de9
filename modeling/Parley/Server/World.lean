import Parley.Reply.Relay
import Parley.Task

/-!
# The world around a server

A `World` holds the stores, the model and the clock, and answers the calls of tasks. Store calls may
take time, fail, or claim that nothing is there, as `Trouble` says for each of them; model calls are
bounded by the limits. Work has to be done by `cutoff`, or it is dropped where it stands.
-/

namespace Parley

/-- What can be asked of the stores. -/
inductive Method
  | createChat
  | getChat
  | listChats
  | deleteChat
  | addMessage
  | updateMessage
  | deleteMessage
  | globalSettings
  | updateGlobalSettings
  | createAgent
  | getAgent
  | listAgents
  | updateAgent
  | deleteAgent
  deriving DecidableEq

def ChatCall.method : ChatCall → Method
  | create _ => .createChat
  | get _ => .getChat
  | list => .listChats
  | delete _ => .deleteChat
  | addMessage _ _ _ => .addMessage
  | updateMessage _ _ => .updateMessage
  | deleteMessage _ => .deleteMessage
  | settings => .globalSettings
  | putSettings _ => .updateGlobalSettings

def AgentCall.method : AgentCall → Method
  | create _ => .createAgent
  | get _ => .getAgent
  | list => .listAgents
  | update _ => .updateAgent
  | delete _ => .deleteAgent

/-- A store call that does not reach the store: it fails, or says that nothing is there. -/
inductive Mishap
  | fails (e : StoreError)
  | missing

/-- How long the calls of a method take, and which of them, counted from one, go wrong. -/
structure Trouble where
  delay : Nat := 0
  mishap : Nat → Option Mishap := fun _ => none

/-- How long model calls may take, in milliseconds. -/
structure Limits where
  step : Nat := 120000
  stream : Nat := 300000

/-- A deletion that was left to be done in the background. -/
structure Cleanup where
  due : Nat
  messageId : Id
  mishap : Option Mishap

structure World where
  now : Nat := 0
  cutoff : Option Nat := none
  cancelAt : Option Nat := none
  limits : Limits := {}
  model : Model
  /-- How many replies the model has given. -/
  answered : Nat := 0
  /-- What the model was asked to answer, and to stream, and what of it all it never got to see. -/
  invocations : List Request := []
  streamed : List Request := []
  unseen : List Request := []
  stamps : Stamps
  chats : ChatVault := ⟨{}, {}⟩
  agents : AgentVault := ⟨{}, {}⟩
  trouble : Method → Trouble := fun _ => {}
  calls : Method → Nat := fun _ => 0
  cleanups : List Cleanup := []

namespace World

def draw (w : World) : Stamp × World :=
  let (stamp, stamps) := w.stamps.next
  (stamp, { w with stamps })

def performChat (w : World) (c : ChatCall) : Except StoreError c.Reply × World :=
  let (stamp, w) := w.draw
  let (reply, chats) := w.chats.perform stamp c
  (reply, { w with chats })

def performAgent (w : World) (c : AgentCall) : Except StoreError c.Reply × World :=
  let (stamp, w) := w.draw
  let (reply, agents) := w.agents.perform stamp c
  (reply, { w with agents })

/-- Counts a call, and says what goes wrong with it. -/
def begin (w : World) (m : Method) : Option Mishap × World :=
  let n := w.calls m + 1
  ((w.trouble m).mishap n, { w with calls := fun k => if k = m then n else w.calls k })

def tidy (w : World) (c : Cleanup) : World :=
  match c.mishap with
  | some _ => w
  | none => (w.performChat (.deleteMessage c.messageId)).2

/-- Lets time pass. What was to be done in the background by then is done. -/
def advance (w : World) (t : Nat) : World :=
  let due := w.cleanups.filter (·.due ≤ t)
  let w := { w with now := max w.now t, cleanups := w.cleanups.filter fun c => !(c.due ≤ t) }
  (due.mergeSort fun a b => a.due ≤ b.due).foldl tidy w

/-- Lets time pass up to `t`, or up to the cutoff, and then says no. -/
def wait (w : World) (t : Nat) : Bool × World :=
  match w.cutoff with
  | some cutoff => if cutoff < t then (false, w.advance cutoff) else (true, w.advance t)
  | none => (true, w.advance t)

def chatReply (w : World) (c : ChatCall) : Option Mishap → Except StoreError c.Reply × World
  | some (.fails e) => (.error e, w)
  | some .missing =>
    match c.absent? with
    | some reply => (.ok reply, w)
    | none => w.performChat c
  | none => w.performChat c

def agentReply (w : World) (c : AgentCall) : Option Mishap → Except StoreError c.Reply × World
  | some (.fails e) => (.error e, w)
  | some .missing =>
    match c.absent? with
    | some reply => (.ok reply, w)
    | none => w.performAgent c
  | none => w.performAgent c

/-- The reply to a store call, none if the work was dropped while it went on. -/
def askChats (w : World) (c : ChatCall) : Option (Except StoreError c.Reply) × World :=
  let (mishap, w) := w.begin c.method
  match w.wait (w.now + (w.trouble c.method).delay) with
  | (false, w) => (none, w)
  | (true, w) => let (reply, w) := w.chatReply c mishap; (some reply, w)

def askAgents (w : World) (c : AgentCall) : Option (Except StoreError c.Reply) × World :=
  let (mishap, w) := w.begin c.method
  match w.wait (w.now + (w.trouble c.method).delay) with
  | (false, w) => (none, w)
  | (true, w) => let (reply, w) := w.agentReply c mishap; (some reply, w)

/-- The model does not get to see a request if the wait for it is called off before. -/
def missed {α : Type} (w : World) (r : Request) (d : Delayed α) : List Request :=
  if Clock.CalledOff w.now d.ahead w.cancelAt w.now then [r] else []

/-- Asks the model to answer, which will be `d`. -/
def invoking {α : Type} (w : World) (r : Request) (d : Delayed α) : World :=
  { w with invocations := w.invocations ++ [r], unseen := w.unseen ++ w.missed r d }

/-- Asks the model for a stream, which will be `d`. -/
def opening {α : Type} (w : World) (r : Request) (d : Delayed α) : World :=
  { w with streamed := w.streamed ++ [r], unseen := w.unseen ++ w.missed r d }

/-- Waits for the model. -/
def attend {α : Type} (w : World) (d : Delayed (Except RunError α)) (deadline limit : Nat) :
    Option (Except RunError α) × World :=
  let (outcome, t) := Clock.await w.now d.after d.ahead deadline w.cancelAt
  match w.wait t with
  | (false, w) => (none, w)
  | (true, w) =>
    match outcome with
    | .arrived => (some d.value, { w with answered := w.answered + 1 })
    | .expired => (some (.error (.timeout (.ofMillis limit))), w)
    | .cancelled => (some (.error .cancelled), w)

def askModel (w : World) (r : Request) : Option (Except RunError String) × World :=
  let limit := w.limits.step
  let d := w.model.answer w.answered r
  (w.invoking r d).attend d (Clock.afterOrFar w.now limit) limit

/-- One deadline holds for the opening of the stream and for all that comes from it. If the clock
does not get that far, the work breaks off. -/
def askStream (w : World) (r : Request) : Option (Except RunError Stream) × World :=
  let limit := w.limits.stream
  match Clock.after? w.now limit with
  | none => (none, w)
  | some deadline =>
    let d := w.model.start w.streamed.length r
    let (reply, w') := (w.opening r d).attend d deadline limit
    (reply.map fun feed => feed.map fun feed => ⟨feed, deadline, .ofMillis limit, false⟩,
      { w' with answered := w.answered })

def answer : (c : Call) → World → Option c.Reply × World
  | .stamp, w => let (stamp, w) := w.draw; (some stamp, w)
  | .chats c, w => w.askChats c
  | .agents c, w => w.askAgents c
  | .invoke r, w => w.askModel r
  | .openStream r, w => w.askStream r

def perform {α : Type} (w : World) (t : Task α) : Option α × World := t.run answer w

end World

end Parley
