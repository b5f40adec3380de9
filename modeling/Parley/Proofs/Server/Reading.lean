import Parley.Proofs.Model.Stream
import Parley.Proofs.Server.Session

/-!
# Reading bodies

A `Reading` is any number of chunks that were pulled from a body, with time passing in between. What
was read of a reply is what the session of its relay sent (`reading_session`), and a body that is
read on always ends (`read_ended`).
-/

namespace Parley

open Relay (Exchange sent)

/-- Chunks that were pulled from a body. -/
inductive Reading (w : World) (b : Body) : List Reply.Bytes → World → Body → Prop
  | start : Reading w b [] w b
  | pull {chunks : List Reply.Bytes} {chunk : Reply.Bytes} {w₁ w₂ : World} {b₁ b₂ : Body}
    (h : Reading w b chunks w₁ b₁) (hp : w₁.pull b₁ = (.chunk chunk, b₂, w₂)) :
    Reading w b (chunks ++ [chunk]) w₂ b₂
  | pause {chunks : List Reply.Bytes} {w₁ : World} {b₁ : Body} (h : Reading w b chunks w₁ b₁)
    (t : Nat) : Reading w b chunks (w₁.advance t) b₁

variable {w w₁ w₂ : World} {s s₁ : Stream} {r r₁ : Relay} {log : List Exchange}
  {b b₁ b₂ : Body} {chunks : List Reply.Bytes}

theorem reading_session (h : Reading w (.reply r s) chunks w₁ b₁) :
    ∃ log s₁ r₁, b₁ = .reply r₁ s₁ ∧ Session w s r log w₁ s₁ r₁ ∧ chunks.flatten = sent log := by
  induction h with
  | start => exact ⟨[], s, r, rfl, .start, rfl⟩
  | pull _ hp ih =>
    obtain ⟨log, s₁, r₁, rfl, hsession, hsent⟩ := ih
    obtain ⟨log', s₂, r₂, rfl, hpulled⟩ := pull_pulled hp
    cases hpulled with
    | chunk h' =>
      refine ⟨log ++ log', s₂, r₂, rfl, hsession.trans h', ?_⟩
      rw [List.flatten_append, hsent, Relay.sent_append, List.flatten_singleton]
  | pause _ t ih =>
    obtain ⟨log, s₁, r₁, rfl, hsession, hsent⟩ := ih
    exact ⟨log, s₁, r₁, rfl, hsession.pause t, hsent⟩

/-- No more chunks than this come from a relay and its stream. -/
def Relay.rank (r : Relay) (s : Stream) : Nat :=
  if r.phase = .settled then 0 else s.feed.items.length + 1

/-- No more chunks than this come from a body. -/
def Body.rank : Body → Nat
  | .bytes chunks => chunks.length
  | .reply r s => r.rank s

lemma rank_le_bound (b : Body) : b.rank ≤ b.bound := by
  cases b with
  | bytes chunks => exact Nat.le_refl _
  | reply r s =>
    rw [Body.rank, Body.bound, Relay.rank]
    split_ifs <;> simp

lemma hear_rank {e : Relay.Event} (h : w.hear s r.demand = (some (e, s₁), w₁)) :
    (r.step e).1.rank s₁ ≤ r.rank s ∧ ((r.step e).2 ≠ [] → (r.step e).1.rank s₁ < r.rank s) := by
  obtain ⟨id, turn, phase⟩ := r
  cases phase with
  | listening =>
    obtain ⟨item, t, next, hnext, ⟨hanswer, -⟩ | ⟨hanswer, -⟩⟩ := hear_item h <;> cases hanswer
    have hcases := s.next_cases w.now w.cancelAt
    rw [hnext] at hcases
    cases hcases with
    | delta hitems => simp [Relay.rank, Relay.step, Relay.Event.ofItem, hitems]
    | fault hitems => simp [Relay.rank, Relay.step, Relay.Event.ofItem, hitems]
    | broken => simp [Relay.rank, Relay.step, Relay.Event.ofItem]
    | ended => simp [Relay.rank, Relay.step, Relay.Event.ofItem]
  | saving =>
    obtain ⟨_ | outcome, -, hanswer⟩ := hear_save h <;> cases hanswer
    rcases outcome with _ | _ | _ <;> simp [Relay.rank, Relay.step, Relay.settle]
  | discarding =>
    obtain ⟨_ | outcome, -, hanswer⟩ := hear_discard h <;> cases hanswer
    simp [Relay.rank, Relay.step, Relay.settle]
  | settled => cases h

lemma session_rank (h : Session w s r log w₁ s₁ r₁) :
    r₁.rank s₁ ≤ r.rank s ∧ (sent log ≠ [] → r₁.rank s₁ < r.rank s) := by
  induction h with
  | start => exact ⟨Nat.le_refl _, fun h => absurd rfl h⟩
  | @heard log w₁ w₂ s₁ s₂ r₁ e _ he ih =>
    obtain ⟨hle, hlt⟩ := hear_rank he
    refine ⟨Nat.le_trans hle ih.1, fun hsent => ?_⟩
    rw [Relay.sent_append, sent_exchange] at hsent
    by_cases hlog : sent log = []
    · rw [hlog, List.nil_append] at hsent
      exact Nat.lt_of_lt_of_le (hlt hsent) ih.1
    · exact Nat.lt_of_le_of_lt hle (ih.2 hlog)
  | pause _ _ ih => exact ih
  | within _ _ ih => exact ih

lemma pull_rank {chunk : Reply.Bytes} (h : w.pull b = (.chunk chunk, b₁, w₁)) :
    b₁.rank < b.rank := by
  cases b with
  | bytes chunks =>
    cases chunks <;> cases h
    exact Nat.lt_succ_self _
  | reply r s =>
    obtain ⟨log, s₁, r₁, rfl, hpulled⟩ := pull_pulled h
    cases hpulled with
    | chunk h' hsent => exact (session_rank h').2 hsent

lemma pull_over (h : w.pull b = (.over, b₁, w₁)) : b₁ = b ∧ w₁ = w := by
  cases b with
  | bytes chunks =>
    cases chunks <;> cases h
    exact ⟨rfl, rfl⟩
  | reply r s =>
    obtain ⟨log, s₁, r₁, rfl, hpulled⟩ := pull_pulled h
    cases hpulled with
    | settled => exact ⟨rfl, rfl⟩

/-- Without a cutoff no pull is broken off. -/
lemma pull_cutoff {p : Pull} (hw : w.cutoff = none) (h : w.pull b = (p, b₁, w₁)) :
    w₁.cutoff = none ∧ p ≠ .pending := by
  cases b with
  | bytes chunks => cases chunks <;> cases h <;> exact ⟨hw, by simp⟩
  | reply r s =>
    obtain ⟨log, s₁, r₁, rfl, hpulled⟩ := pull_pulled h
    cases hpulled with
    | chunk _ _ hcutoff => exact ⟨hcutoff.trans hw, by simp⟩
    | settled => exact ⟨hw, by simp⟩
    | pending _ _ _ hcutoff => exact absurd hw hcutoff

lemma Reading.cons {chunk : Reply.Bytes} (hp : w.pull b = (.chunk chunk, b₁, w₁))
    (h : Reading w₁ b₁ chunks w₂ b₂) : Reading w b (chunk :: chunks) w₂ b₂ := by
  induction h with
  | start => exact Reading.start.pull hp
  | pull _ hp' ih => exact ih.pull hp'
  | pause _ t ih => exact ih.pause t

theorem pulls_ended {n : Nat} (hw : w.cutoff = none) (hn : b.rank < n) :
    ∃ chunks b₁ w₁, w.pulls b n = (chunks, true, b₁, w₁) ∧ Reading w b chunks w₁ b₁ ∧
      w₁.pull b₁ = (.over, b₁, w₁) := by
  induction n generalizing w b with
  | zero => exact absurd hn (Nat.not_lt_zero _)
  | succ n ih =>
    rw [World.pulls]
    rcases hpull : w.pull b with ⟨chunk | _ | _, b₁, w₁⟩
    · obtain ⟨chunks, b₂, w₂, hpulls, hreading, hover⟩ := ih (pull_cutoff hw hpull).1
        (Nat.lt_of_lt_of_le (pull_rank hpull) (Nat.le_of_lt_succ hn))
      refine ⟨chunk :: chunks, b₂, w₂, ?_, hreading.cons hpull, hover⟩
      simp only [hpulls]
    · obtain ⟨rfl, rfl⟩ := pull_over hpull
      exact ⟨[], b₁, w₁, rfl, .start, hpull⟩
    · exact absurd rfl (pull_cutoff hw hpull).2

/-- A body that is read without a cutoff is read to its end. -/
theorem read_ended (hw : w.cutoff = none) (b : Body) :
    ∃ chunks b₁ w₁, w.read b none = (chunks, true, b₁, w₁) ∧ Reading w b chunks w₁ b₁ ∧
      w₁.pull b₁ = (.over, b₁, w₁) :=
  pulls_ended hw (Nat.lt_succ_of_le (rank_le_bound b))

end Parley
