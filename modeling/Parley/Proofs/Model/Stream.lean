import Parley.Model.Stream

/-!
# What comes of a stream
-/

namespace Parley.Stream

/-- What the next item of a stream can be, and the stream after it: the next delta or fault of the
feed, a fault of the wait for it, or the end, which comes once nothing is left in the feed. -/
inductive Next (s : Stream) : Option Item → Stream → Prop
  | delta {after : Option Nat} {ahead : Bool} {text : String} {rest : List (Delayed Item)}
    (hitems : s.feed.items = ⟨after, .ok text, ahead⟩ :: rest) :
    Next s (some (.ok text)) { s with feed := { s.feed with items := rest } }
  | fault {after : Option Nat} {ahead : Bool} {e : RunError} {rest : List (Delayed Item)}
    (hitems : s.feed.items = ⟨after, .error e, ahead⟩ :: rest) :
    Next s (some (.error e)) { s with feed := { s.feed with items := rest }, closed := true }
  | broken (e : RunError) : Next s (some (.error e)) { s with closed := true }
  | ended (hitems : s.closed = false → s.feed.items = []) : Next s none { s with closed := true }

theorem next_cases (s : Stream) (now : Nat) (cancelAt : Option Nat) :
    Next s (s.next now cancelAt).1 (s.next now cancelAt).2.2 := by
  unfold next
  dsimp only
  split
  · next hclosed =>
    obtain ⟨feed, deadline, limit, closed⟩ := s
    obtain rfl : closed = true := hclosed
    exact .ended (by simp)
  · split
    · next hitems =>
      split
      · exact .ended fun _ => hitems
      · exact .broken _
      · exact .broken _
    · next item rest hitems =>
      obtain ⟨after, value, ahead⟩ := item
      split
      · cases value with
        | ok text => exact .delta hitems
        | error e => exact .fault hitems
      · exact .broken _
      · exact .broken _

end Parley.Stream
