import Parley.Id
import Parley.Time.Timestamp

/-!
# New identifiers and the time of day

A new record takes a `Stamp`: an identifier and the present time. `Stamps` hands them out one after
the other.
-/

namespace Parley

structure Stamp where
  id : Id
  time : Timestamp
  deriving DecidableEq, Inhabited

structure Stamps where
  nth : Nat → Stamp
  drawn : Nat := 0

namespace Stamps

def next (s : Stamps) : Stamp × Stamps := (s.nth s.drawn, { s with drawn := s.drawn + 1 })

end Stamps

/-- A value whose making may take stamps. -/
abbrev Stamped (α : Type) := StateM Stamps α

def Stamped.draw : Stamped Stamp := fun s => s.next

def Stamped.run {α : Type} (m : Stamped α) (s : Stamps) : α × Stamps := StateT.run m s

end Parley
