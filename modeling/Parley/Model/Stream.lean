import Parley.Error
import Parley.Model.Request
import Parley.Time.Clock

/-!
# Models and their streams

A `Feed` is what a model sends piece by piece: texts and faults, each a while after the one before
was taken, and an end that may never come. A `Stream` is a feed with a deadline: it ends after the
first error, and the end of its time or of the wait for it is such an error.
-/

namespace Parley

abbrev Item := Except RunError String

structure Feed where
  items : List (Delayed Item)
  ending : Delayed Unit := .atOnce ()

structure Stream where
  feed : Feed
  deadline : Nat
  limit : Span
  closed : Bool := false

namespace Stream

/-- The next item if there is one, when it is known, and the stream after it. -/
def next (s : Stream) (now : Nat) (cancelAt : Option Nat) : Option Item × Nat × Stream :=
  let shut := { s with closed := true }
  if s.closed then (none, now, s)
  else match s.feed.items with
    | [] =>
      match Clock.await now s.feed.ending.after s.feed.ending.ahead s.deadline cancelAt with
      | (.arrived, t) => (none, t, shut)
      | (.expired, t) => (some (.error (.timeout s.limit)), t, shut)
      | (.cancelled, t) => (some (.error .cancelled), t, shut)
    | item :: rest =>
      match Clock.await now item.after item.ahead s.deadline cancelAt with
      | (.arrived, t) =>
        let s := { s with feed := { s.feed with items := rest } }
        match item.value with
        | .ok text => (some (.ok text), t, s)
        | .error e => (some (.error e), t, { s with closed := true })
      | (.expired, t) => (some (.error (.timeout s.limit)), t, shut)
      | (.cancelled, t) => (some (.error .cancelled), t, shut)

end Stream

/-- A model answers at once or piece by piece. Its answers may depend on how many it gave before. -/
structure Model where
  answer : (before : Nat) → Request → Delayed (Except RunError String)
  start : (before : Nat) → Request → Delayed (Except RunError Feed)

/-- A model whose server is not there. -/
def Model.unreachable : Model where
  answer _ _ := .atOnce (.error (.model .unreachable))
  start _ _ := .atOnce (.error (.model .unreachable))

end Parley
