/-!
# Waiting

Times of the running clock are in milliseconds. `await` says how waiting for something ends: it
comes, the time for it runs out, or the wait is called off, whichever is first.
-/

namespace Parley

/-- Something that comes after a while, or never. Who waits for it may find in one moment that it is
there and that the wait is called off; then what is looked at first counts, and `ahead` says that
this is what came. -/
structure Delayed (α : Type) where
  after : Option Nat
  value : α
  ahead : Bool := false

def Delayed.atOnce {α : Type} (value : α) : Delayed α := { after := some 0, value }

inductive Wait
  | arrived
  | expired
  | cancelled
  deriving DecidableEq

namespace Clock

/-- How a wait ends that starts at `now` and is not called off, and when. What is there at once
arrives even after the deadline. -/
def awaitOn (now : Nat) (after : Option Nat) (deadline : Nat) : Wait × Nat :=
  let expiry := max deadline now
  match after with
  | some d => if now + d ≤ expiry then (.arrived, now + d) else (.expired, expiry)
  | none => (.expired, expiry)

/-- A wait that starts at `now` is called off before `t`, or just then and what happens at `t` is
not ahead of that. -/
def CalledOff (now : Nat) (ahead : Bool) (cancelAt : Option Nat) (t : Nat) : Prop :=
  ∃ c ∈ cancelAt, max now c < t ∨ ahead = false ∧ max now c = t

instance (now : Nat) (ahead : Bool) (cancelAt : Option Nat) :
    DecidablePred (CalledOff now ahead cancelAt) :=
  fun t => inferInstanceAs
    (Decidable (∃ c ∈ cancelAt, max now c < t ∨ ahead = false ∧ max now c = t))

/-- How a wait ends that starts at `now`, and when. -/
def await (now : Nat) (after : Option Nat) (ahead : Bool) (deadline : Nat)
    (cancelAt : Option Nat) : Wait × Nat :=
  let first := awaitOn now after deadline
  if CalledOff now ahead cancelAt first.2 then (.cancelled, cancelAt.elim now (max now)) else first

/-- The clock counts seconds below this. -/
def seconds : Nat := 0x8000000000000000

/-- The time a while after another, if the clock gets that far. -/
def after? (now length : Nat) : Option Nat :=
  if (now + length) / 1000 < seconds then some (now + length) else none

/-- Thirty years. -/
def farAway : Nat := 30 * 365 * 86400 * 1000

/-- The time a while after another, or one far away if the clock does not get there. -/
def afterOrFar (now length : Nat) : Nat := (after? now length).getD (now + farAway)

end Clock

end Parley
