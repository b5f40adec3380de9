import Mathlib.Data.List.Forall2
import Mathlib.Tactic.Lemma
import Parley.Task

/-!
# Work that is told the same up to errors

Results `Agree` if both failed, whatever the errors are, or if neither did and what they hold is
related. Two tasks are alike if they make the same calls as long as the replies to them agree, and
come to related results.
-/

namespace Parley

/-- Both failed, or neither did and the values are related. -/
inductive Agree {ε α : Type} (R : α → α → Prop) : Except ε α → Except ε α → Prop
  | failed (e e' : ε) : Agree R (.error e) (.error e')
  | done {a a' : α} (h : R a a') : Agree R (.ok a) (.ok a')

lemma Agree.refl {ε α : Type} {R : α → α → Prop} (hR : ∀ a, R a a) : (x : Except ε α) → Agree R x x
  | .error e => .failed e e
  | .ok a => .done (hR a)

/-- What comes at the same time, is looked at in the same order, and is related then. -/
structure Delayed.Like {α : Type} (R : α → α → Prop) (d d' : Delayed α) : Prop where
  after : d'.after = d.after
  ahead : d'.ahead = d.ahead
  value : R d.value d'.value

/-- The same texts, and faults at the same places and times. -/
structure Feed.Like (f f' : Feed) : Prop where
  items : List.Forall₂ (Delayed.Like (Agree Eq)) f.items f'.items
  ending : f'.ending = f.ending

structure Stream.Like (s s' : Stream) : Prop where
  feed : s.feed.Like s'.feed
  deadline : s'.deadline = s.deadline
  limit : s'.limit = s.limit
  closed : s'.closed = s.closed

lemma Stream.Like.refl (s : Stream) : s.Like s where
  feed := ⟨List.forall₂_same.2 fun d _ => ⟨rfl, rfl, .refl (fun _ => rfl) d.value⟩, rfl⟩
  deadline := rfl
  limit := rfl
  closed := rfl

/-- Replies to a call that say the same up to errors. -/
def Call.Like : (c : Call) → c.Reply → c.Reply → Prop
  | .stamp, r, r' => r = r'
  | .chats _, r, r' => Agree Eq r r'
  | .agents _, r, r' => Agree Eq r r'
  | .invoke _, r, r' => Agree Eq r r'
  | .openStream _, r, r' => Agree Stream.Like r r'

namespace Task

variable {α β : Type} {R : α → α → Prop} {S : β → β → Prop} {t t' : Task α}

inductive Like (R : α → α → Prop) : Task α → Task α → Prop
  | done {a a' : α} (h : R a a') : Like R (done a) (done a')
  | ask {c : Call} {k k' : c.Reply → Task α}
    (h : ∀ r r', c.Like r r' → Like R (k r) (k' r')) : Like R (ask c k) (ask c k')

theorem Like.bind {f f' : α → Task β} (h : Like R t t')
    (hf : ∀ a a', R a a' → Like S (f a) (f' a')) : Like S (t >>= f) (t' >>= f') := by
  induction h with
  | done h => exact hf _ _ h
  | ask _ ih => exact .ask fun r r' hr => ih r r' hr

lemma like_call (c : Call) : Like c.Like (call c) (call c) := .ask fun _ _ hr => .done hr

end Task

end Parley
