import Parley.Proofs.Server.Relay

/-!
# Dropped bodies

A body may be dropped between two chunks, or during any wait for the next one (`Dropped`). Wherever
that is, the message of a reply is either stored whole or deleted in the end, and the model's work
is called off just if the relay had not settled.
-/

namespace Parley

open Relay (Exchange Answered Resolved deltas sent)

/-- The chunk that a pull got, if it did. -/
def Pull.chunks : Pull → List Reply.Bytes
  | chunk bytes => [bytes]
  | _ => []

/-- What a reader has got, and the world and the body that it leaves: after some chunks, or after
waiting for another one no longer than it likes. -/
inductive Dropped (w : World) (b : Body) : List Reply.Bytes → World → Body → Prop
  | between {chunks : List Reply.Bytes} {w₁ : World} {b₁ : Body}
    (h : Reading w b chunks w₁ b₁) : Dropped w b chunks w₁ b₁
  | waiting {chunks : List Reply.Bytes} {w₁ w₂ : World} {b₁ b₂ : Body} {length : Nat} {p : Pull}
    (h : Reading w b chunks w₁ b₁) (hp : w₁.pullWithin b₁ length = (p, b₂, w₂)) :
    Dropped w b (chunks ++ p.chunks) w₂ b₂

/-- A reader leaves a session where it is, or while it waits for an answer that then does not
come. -/
inductive Left (w : World) (s : Stream) (r : Relay) :
    List Exchange → World → Stream → Relay → Prop
  | idle {log : List Exchange} {w₁ : World} {s₁ : Stream} {r₁ : Relay}
    (h : Session w s r log w₁ s₁ r₁) : Left w s r log w₁ s₁ r₁
  | lost {log : List Exchange} {w₁ w₂ : World} {s₁ : Stream} {r₁ : Relay}
    (h : Session w s r log w₁ s₁ r₁) (hlost : w₁.hear s₁ r₁.demand = (none, w₂))
    (cutoff : Option Nat) : Left w s r log { w₂ with cutoff } s₁ r₁

variable {w w₁ : World} {s s₁ : Stream} {r r₁ : Relay} {log : List Exchange} {b : Body}

theorem dropped_left {chunks : List Reply.Bytes} (h : Dropped w (.reply r s) chunks w₁ b) :
    ∃ log s₁ r₁, b = .reply r₁ s₁ ∧ Left w s r log w₁ s₁ r₁ ∧ chunks.flatten = sent log := by
  cases h with
  | between h =>
    obtain ⟨log, s₁, r₁, rfl, hsession, hsent⟩ := reading_session h
    exact ⟨log, s₁, r₁, rfl, .idle hsession, hsent⟩
  | @waiting chunks w₀ _ _ _ length p h hp =>
    obtain ⟨log, s₀, r₀, rfl, hsession, hsent⟩ := reading_session h
    unfold World.pullWithin at hp
    rcases hpull : World.pull { w₀ with cutoff := some (w₀.now + length) } (.reply r₀ s₀)
      with ⟨p', b', w'⟩
    rw [hpull] at hp
    cases hp
    obtain ⟨log', s₁, r₁, rfl, hpulled⟩ := pull_pulled hpull
    have hwithin := hsession.within (some (w₀.now + length))
    refine ⟨log ++ log', s₁, r₁, rfl, ?_, ?_⟩
    · cases hpulled with
      | chunk h' => exact .idle ((hwithin.trans h').within w₀.cutoff)
      | settled => exact .idle ((hwithin.trans .start).within w₀.cutoff)
      | pending h' _ hlost => exact .lost (hwithin.trans h') hlost w₀.cutoff
    · rw [List.flatten_append, hsent, Relay.sent_append]
      congr 1
      cases hpulled with
      | chunk => exact List.append_nil _
      | settled => rfl
      | pending _ hsent' => exact hsent'.symm

/-- An answer that does not come changes nothing but the time. -/
lemma left_spares {ids : List Id} (h : Left w s r log w₁ s₁ r₁)
    (hw : ∀ c ∈ w.cleanups, c.messageId ∈ ids) (hr : r.messageId ∈ ids) : w.Spares ids w₁ := by
  cases h with
  | idle h => exact session_spares h hw hr
  | lost h hlost =>
    have hspares := session_spares h hw hr
    have hlast := (hear_spares hlost (fun c hc => hw c (hspares.cleanups c hc)) fun id hid => by
      rw [demand_messageIds hid, session_messageId h]
      exact hr).1
    exact (hspares.trans hlast).trans ⟨.refl ids _, fun _ hc => hc, rfl, rfl⟩

lemma left_run (h : Left w s r log w₁ s₁ r₁) : Relay.Run r log r₁ := by
  cases h with
  | idle h => exact h.run
  | lost h => exact h.run

/-- A settled relay waits for nothing. -/
lemma left_settled (h : Left w s r log w₁ s₁ r₁) (hr : r₁.phase = .settled) :
    Session w s r log w₁ s₁ r₁ := by
  cases h with
  | idle h => exact h
  | lost h hlost cutoff =>
    rw [Relay.demand_eq_nothing_iff.2 hr] at hlost
    cases hlost
    exact h.within cutoff

lemma abandon_settled (hr : r.phase = .settled) : w.abandon (.reply r s) = w := by
  simp [World.abandon, Relay.isArmed, hr]

/-- What dropping a relay that is not settled leaves to be done. -/
def World.unfinished (w : World) (r : Relay) : Cleanup :=
  ⟨w.now + (w.trouble .deleteMessage).delay, r.messageId,
    (w.trouble .deleteMessage).mishap (w.calls .deleteMessage + 1)⟩

lemma abandon_armed (hr : r.phase ≠ .settled) : w.abandon (.reply r s) =
    { (w.begin .deleteMessage).2 with
      cancelAt := some w.now, cleanups := w.cleanups ++ [w.unfinished r] } := by
  simp [World.abandon, Relay.isArmed, hr, World.unfinished, World.begin]

theorem abandoned_gone (hr : r.phase ≠ .settled) (hw : World.Sound r.messageId w) {t : Nat}
    (ht : w.now + (w.trouble .deleteMessage).delay ≤ t) :
    ((w.abandon (.reply r s)).advance t).chats.memory.content? r.messageId = none := by
  rw [abandon_armed hr]
  exact World.advance_gone (c := w.unfinished r) (by simp) ht (hw.deletes _) hw.once hw.writable

lemma abandon_cleanups {ids : List Id} (hw : ∀ c ∈ w.cleanups, c.messageId ∈ ids)
    (hr : r.messageId ∈ ids) : ∀ c ∈ (w.abandon (.reply r s)).cleanups, c.messageId ∈ ids := by
  by_cases hphase : r.phase = .settled
  · rwa [abandon_settled hphase]
  · rw [abandon_armed hphase]
    intro c hc
    rcases List.mem_append.1 hc with hc | hc
    · exact hw c hc
    · rw [List.mem_singleton.1 hc]
      exact hr

lemma abandon_chats : (w.abandon (.reply r s)).chats = w.chats := by
  by_cases hphase : r.phase = .settled
  · rw [abandon_settled hphase]
  · rw [abandon_armed hphase]
    rfl

/-- Wherever the body of a reply is dropped, over a sound store: the model's work is called off just
if the relay had not resolved what becomes of its message, and once the cleanup is due the message
holds the whole reply, if that was written before, or is gone. Other messages stay as they are, but
for those that were to be deleted anyway. -/
theorem dropped_whole_or_gone {t : Turn} {m : Id} (hm : t.aiMessageId = some m) {w : World}
    (hw : w.Sound m) {s : Stream} {chunks : List Reply.Bytes} {w₁ : World} {b : Body}
    (h : Dropped w (.ofTurn t s) chunks w₁ b) :
    ∃ log s₁ r₁, b = .reply r₁ s₁ ∧ Left w s { messageId := m, turn := t } log w₁ s₁ r₁ ∧
      chunks.flatten = sent log ∧
      (Resolved log → (w₁.abandon b).cancelAt = w.cancelAt) ∧
      (¬Resolved log → (w₁.abandon b).cancelAt = some w₁.now) ∧
      ∀ T, w₁.now + (w₁.trouble .deleteMessage).delay ≤ T →
        (Answered log (.save m (t.textWith (deltas log))) (.saved (.ok true)) →
          Resolved log ∧ Answered log .item .ended ∧
          (s.closed = false → s.feed.items.map (·.value) = (deltas log).map .ok) ∧
          ((w₁.abandon b).advance T).chats.memory.content? m =
            some (t.textWith (deltas log))) ∧
        (¬Answered log (.save m (t.textWith (deltas log))) (.saved (.ok true)) →
          ((w₁.abandon b).advance T).chats.memory.content? m = none) ∧
        ((w₁.abandon b).advance T).chats.memory.besides (m :: w.doomed) =
          w.chats.memory.besides (m :: w.doomed) ∧
        (w.chats.slot.text? = some w.chats.memory.text →
          ((w₁.abandon b).advance T).chats.slot.text? =
            some ((w₁.abandon b).advance T).chats.memory.text) := by
  rw [ofTurn_eq hm] at h
  obtain ⟨log, s₁, r₁, rfl, hleft, hsent⟩ := dropped_left h
  have hcleanups : ∀ c ∈ w.cleanups, c.messageId ∈ m :: w.doomed :=
    fun c hc => List.mem_cons_of_mem m (World.mem_doomed c hc)
  have hspares := left_spares hleft hcleanups (List.mem_cons_self ..)
  have hrun := left_run hleft
  have hid := Relay.run_messageId hrun
  have hresolved := Relay.resolved_iff hrun
  have hsound := hw.of_spares hspares
  refine ⟨log, s₁, r₁, rfl, hleft, hsent, fun hyes => ?_, fun hno => ?_, fun T hT => ?_⟩
  · rw [abandon_settled (hresolved.1 hyes)]
    exact hspares.cancelAt
  · rw [abandon_armed (mt hresolved.2 hno)]
  · have hafter := (World.advance_spares (abandon_cleanups (r := r₁) (s := s₁)
      (fun c hc => hcleanups c (hspares.cleanups c hc)) (by simp [hid])) T).chats
    rw [abandon_chats] at hafter
    have hall := hspares.chats.trans hafter
    refine ⟨fun hkept => ?_, fun hnot => ?_, hall.memory.besides_eq, hall.written⟩
    · have hyes : Resolved log := .inl ⟨_, _, _, hkept⟩
      have hsettled := hresolved.1 hyes
      have hsession := left_settled hleft hsettled
      obtain ⟨hdemand, hcontent, -⟩ := session_stored hsession hw.alone hkept
      obtain ⟨status, htruthful⟩ := Relay.run_truthful hsession.run hdemand
      have hended := htruthful.faithful.ended_of_saved hkept
      refine ⟨hyes, hended, (session_taken hsession).whole hended, ?_⟩
      rw [abandon_settled hsettled]
      exact (advance_content? hsound.alone T).trans hcontent
    · by_cases hsettled : r₁.phase = .settled
      · have hsession := left_settled hleft hsettled
        have hdemand := Relay.demand_eq_nothing_iff.2 hsettled
        obtain ⟨status, htruthful⟩ := Relay.run_truthful hsession.run hdemand
        refine hafter.memory.gone m (session_gone hsession hw (by simp) hsettled ?_)
        intro text hsave
        exact hnot (htruthful.faithful.text_of_saved hsave ▸ hsave)
      · have hgone := @abandoned_gone _ s₁ _ hsettled (hid ▸ hsound) T hT
        rwa [hid] at hgone

/-- A body is dropped unread while its message is empty, and the model would have failed. -/
theorem dropped_unread :
    ∃ (w : World) (t : Turn) (m : Id) (s : Stream), t.aiMessageId = some m ∧ w.Sound m ∧
      w.chats.memory.content? m = some "" ∧ Dropped w (.ofTurn t s) [] w (.ofTurn t s) ∧
      ((w.abandon (.ofTurn t s)).advance 0).chats.memory.content? m = none := by
  let t : Turn :=
    { chatId := .ofNat 1, userMessageId := .ofNat 2, aiMessageId := some (.ofNat 3),
      createdChat := false }
  let chat : Chat :=
    { id := .ofNat 1, name := "", createdAt := default, updatedAt := default,
      messages := [⟨.ofNat 3, .ofNat 1, .ai, "", default⟩] }
  let w : World :=
    { model := .unreachable, stamps := ⟨fun _ => default, 0⟩, chats := ⟨{ chats := [chat] }, {}⟩ }
  let s : Stream := ⟨{ items := [.atOnce (.error .cancelled)] }, 0, .ofMillis 0, false⟩
  have hw : w.Sound (.ofNat 3) :=
    ⟨fun _ => rfl, fun _ h => (by cases h), ⟨rfl, by decide⟩, by simp [Ledger.Once, w], by simp [w]⟩
  have hdropped : Dropped w (.ofTurn t s) [] w (.ofTurn t s) := .between .start
  refine ⟨w, t, .ofNat 3, s, rfl, hw, by decide, hdropped, ?_⟩
  obtain ⟨log, s₁, r₁, -, -, -, -, -, h⟩ := dropped_whole_or_gone rfl hw hdropped
  obtain ⟨hkept, hnot, -⟩ := h 0 (by decide)
  refine hnot fun hsave => ?_
  obtain ⟨-, -, hitems, -⟩ := hkept hsave
  have hfeed := hitems rfl
  cases hd : deltas log <;> simp [hd, s, Delayed.atOnce] at hfeed

end Parley
