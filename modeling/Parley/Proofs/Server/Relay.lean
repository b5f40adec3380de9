import Parley.Proofs.Reply.Bodies
import Parley.Proofs.Server.Reading

/-!
# What a relay does in a world

In any world a relay takes its deltas from the front of the feed, touches no message but its own,
and says that it succeeded only where its text is stored.
-/

namespace Parley

open Relay (Demand Exchange Answered answered_snoc deltas deltas_snoc sent)

variable {w w₁ : World} {s s₁ : Stream} {r r₁ : Relay} {log : List Exchange}

/-- The deltas a relay hears are the ones at the start of the feed, up to the first fault; it hears
that there are no more only if that is so. -/
structure Taken (s : Stream) (log : List Exchange) (s₁ : Stream) (r₁ : Relay) : Prop where
  listening : r₁.phase = .listening → ¬Answered log .item .ended ∧ s₁.closed = s.closed ∧
    s.feed.items.map (·.value) = (deltas log).map .ok ++ s₁.feed.items.map (·.value)
  front : (deltas log).map .ok <+: s.feed.items.map (·.value)
  whole : Answered log .item .ended → s.closed = false →
    s.feed.items.map (·.value) = (deltas log).map .ok

lemma Taken.quiet {x : Exchange} {s₂ : Stream} {r₂ : Relay} (h : Taken s log s₁ r₁)
    (hx : x.event.delta? = none) (hr : r₂.phase ≠ .listening)
    (hend : x.event = .ended → s.closed = false →
      s.feed.items.map (·.value) = (deltas log).map .ok) :
    Taken s (log ++ [x]) s₂ r₂ := by
  have hdeltas : deltas (log ++ [x]) = deltas log := by simp [deltas_snoc, hx]
  refine ⟨fun h => absurd h hr, hdeltas ▸ h.front, fun hended hopen => ?_⟩
  rw [hdeltas]
  rcases answered_snoc.1 hended with hended | ⟨-, hx⟩
  · exact h.whole hended hopen
  · exact hend hx hopen

lemma taken_heard {w₂ : World} {s₂ : Stream} {e : Relay.Event} (h : Taken s log s₁ r₁)
    (he : w₁.hear s₁ r₁.demand = (some (e, s₂), w₂)) :
    Taken s (log ++ [r₁.exchange e]) s₂ (r₁.step e).1 := by
  obtain ⟨id, turn, phase⟩ := r₁
  cases phase with
  | listening =>
    obtain ⟨hnot, hclosed, hitems⟩ := h.listening rfl
    obtain ⟨item, t, next, hnext, ⟨hanswer, -⟩ | ⟨hanswer, -⟩⟩ := hear_item he <;> cases hanswer
    have hcases := s₁.next_cases w₁.now w₁.cancelAt
    rw [hnext] at hcases
    cases hcases with
    | @delta after ahead text rest hfeed =>
      rw [hfeed, List.map_cons, ← List.singleton_append, ← List.append_assoc] at hitems
      have hdeltas : (deltas (log ++ [Relay.exchange ⟨id, turn, .listening⟩ (.delta text)])).map
          Except.ok = (deltas log).map .ok ++ [(.ok text : Item)] := by
        simp [deltas_snoc, Relay.exchange, Relay.Event.delta?]
      have hnot' : ¬Answered (log ++ [Relay.exchange ⟨id, turn, .listening⟩ (.delta text)])
          .item .ended := by simp [answered_snoc, hnot, Relay.exchange]
      refine ⟨fun _ => ⟨hnot', hclosed, ?_⟩, ?_, fun hended => absurd hended hnot'⟩
      · exact hdeltas ▸ hitems
      · exact ⟨_, (hdeltas ▸ hitems).symm⟩
    | fault => exact h.quiet rfl (by simp [Relay.step, Relay.Event.ofItem]) (fun h => by cases h)
    | broken => exact h.quiet rfl (by simp [Relay.step, Relay.Event.ofItem]) (fun h => by cases h)
    | ended hfeed =>
      refine h.quiet rfl (by simp [Relay.step, Relay.Event.ofItem]) fun _ hopen => ?_
      rw [hitems, hfeed (hclosed.trans hopen), List.map_nil, List.append_nil]
  | saving =>
    obtain ⟨_ | outcome, -, hanswer⟩ := hear_save he <;> cases hanswer
    refine h.quiet rfl ?_ (fun h => by cases h)
    rcases outcome with _ | _ | _ <;> simp [Relay.step, Relay.settle]
  | discarding =>
    obtain ⟨_ | outcome, -, hanswer⟩ := hear_discard he <;> cases hanswer
    exact h.quiet rfl (by simp [Relay.step, Relay.settle]) (fun h => by cases h)
  | settled => cases he

theorem session_taken (h : Session w s r log w₁ s₁ r₁) : Taken s log s₁ r₁ := by
  induction h with
  | start =>
    refine ⟨fun _ => ⟨?_, rfl, rfl⟩, List.nil_prefix, ?_⟩
    · simp [Answered]
    · simp [Answered]
  | heard _ he ih => exact taken_heard ih he
  | pause _ _ ih => exact ih
  | within _ _ ih => exact ih

lemma demand_messageIds {id : Id} (h : id ∈ r.demand.messageIds) : id = r.messageId := by
  unfold Relay.demand at h
  split at h <;> simp [Demand.messageIds] at h <;> exact h

lemma session_messageId (h : Session w s r log w₁ s₁ r₁) : r₁.messageId = r.messageId :=
  Relay.run_messageId h.run

/-- A relay touches no message but its own; others are deleted only if that was to be done anyway.
-/
theorem session_spares {ids : List Id} (h : Session w s r log w₁ s₁ r₁)
    (hw : ∀ c ∈ w.cleanups, c.messageId ∈ ids) (hr : r.messageId ∈ ids) : w.Spares ids w₁ := by
  induction h with
  | start => exact .refl ids w
  | heard h he ih =>
    refine ih.trans (hear_spares he (fun c hc => hw c (ih.cleanups c hc)) fun id hid => ?_).1
    rw [demand_messageIds hid, session_messageId h]
    exact hr
  | pause _ t ih => exact ih.trans (World.advance_spares (fun c hc => hw c (ih.cleanups c hc)) t)
  | within _ _ ih => exact ih.trans ⟨.refl ids _, fun _ hc => hc, rfl, rfl⟩

lemma session_spares_own (h : Session w s r log w₁ s₁ r₁) :
    w.Spares (r.messageId :: w.doomed) w₁ :=
  session_spares h (fun c hc => List.mem_cons_of_mem _ (World.mem_doomed c hc))
    (List.mem_cons_self ..)

lemma session_alone (h : Session w s r log w₁ s₁ r₁)
    (hw : ∀ c ∈ w.cleanups, c.messageId ≠ r.messageId) :
    ∀ c ∈ w₁.cleanups, c.messageId ≠ r.messageId :=
  fun c hc => hw c ((session_spares_own h).cleanups c hc)

lemma advance_content? {id : Id} (hw : ∀ c ∈ w.cleanups, c.messageId ≠ id) (t : Nat) :
    (w.advance t).chats.memory.content? id = w.chats.memory.content? id := by
  have hspares := World.advance_spares (@World.mem_doomed w) t
  refine Ledger.content?_of_besides (fun hid => ?_) hspares.chats.memory.besides_eq
  obtain ⟨c, hc, rfl⟩ := List.mem_map.1 hid
  exact hw c hc rfl

/-- A message whose text was written keeps it, in memory and in the slot. -/
theorem session_stored {text : String} (h : Session w s r log w₁ s₁ r₁)
    (hw : ∀ c ∈ w.cleanups, c.messageId ≠ r.messageId)
    (hsave : Answered log (.save r.messageId text) (.saved (.ok true))) :
    r₁.demand = .nothing ∧ w₁.chats.memory.content? r.messageId = some text ∧
      w₁.chats.slot.text? = some w₁.chats.memory.text := by
  induction h with
  | start => simp [Answered] at hsave
  | @heard log w₁ w₂ s₁ s₂ r₁ e h he ih =>
    rcases answered_snoc.1 hsave with hsave | ⟨hdemand, rfl⟩
    · rw [(ih hsave).1] at he
      cases he
    · dsimp only [Relay.exchange] at hdemand
      have hphase := Relay.phase_of_save hdemand
      rw [hdemand] at he
      obtain ⟨_ | outcome, hask, hanswer⟩ := hear_save he <;> cases hanswer
      refine ⟨?_, World.askChats_saved hask⟩
      simp [Relay.step, Relay.demand, Relay.settle, hphase]
  | pause h t ih =>
    obtain ⟨hdemand, hcontent, hslot⟩ := ih hsave
    refine ⟨hdemand, (advance_content? (session_alone h hw) t).trans hcontent, ?_⟩
    exact (World.advance_spares World.mem_doomed t).chats.written hslot
  | within _ _ ih => exact ih hsave

/-- Over a sound store, a relay that settled without its text being written has left no message. -/
theorem session_gone (h : Session w s r log w₁ s₁ r₁) (hw : World.Sound r.messageId w)
    (hr : r.phase ≠ .settled) (hr₁ : r₁.phase = .settled)
    (hsave : ∀ text, ¬Answered log (.save r.messageId text) (.saved (.ok true))) :
    w₁.chats.memory.content? r.messageId = none := by
  induction h with
  | start => exact absurd hr₁ hr
  | @heard log w₁ w₂ s₁ s₂ r₁ e h he ih =>
    have hsound := hw.of_spares (session_spares_own h)
    have hid := session_messageId h
    cases hphase : r₁.phase with
    | listening =>
      rw [Relay.demand, hphase] at he
      cases hear_answers he <;> simp [Relay.step, hphase] at hr₁
    | saving =>
      have hdemand : r₁.demand = .save r.messageId r₁.turn.aiText := by
        rw [Relay.demand, hphase, ← hid]
      rw [hdemand] at he
      obtain ⟨_ | outcome, hask, hanswer⟩ := hear_save he <;> cases hanswer
      rcases outcome with e | _ | _
      · simp [Relay.step, hphase] at hr₁
      · exact World.askChats_vanished hask hsound
      · exact absurd (answered_snoc.2 (.inr ⟨hdemand, rfl⟩)) (hsave r₁.turn.aiText)
    | discarding =>
      have hdemand : r₁.demand = .discard r.messageId := by rw [Relay.demand, hphase, ← hid]
      rw [hdemand] at he
      obtain ⟨_ | outcome, hask, hanswer⟩ := hear_discard he <;> cases hanswer
      exact World.askChats_gone hask hsound
    | settled =>
      rw [Relay.demand, hphase] at he
      cases he
  | pause h t ih =>
    exact (World.advance_spares World.mem_doomed t).chats.memory.gone _ (ih hr₁ hsave)
  | within _ _ ih => exact ih hr₁ hsave

lemma ofTurn_eq {t : Turn} {m : Id} (hm : t.aiMessageId = some m) (s : Stream) :
    Body.ofTurn t s = .reply { messageId := m, turn := t } s := by
  simp [Body.ofTurn, Relay.ofTurn?, hm]

/-- What a truthful relay sent is framed: the visible part of the deltas, and the status. -/
lemma truthful_framed {m : Id} {t : Turn} {status : Reply.Status}
    (h : Relay.Truthful m t log status) :
    Reply.Framed (String.ofList (Reply.visible (String.join (deltas log)).toList)) status
      (sent log) := by
  obtain ⟨front, last, rfl, hlast, hfront⟩ := h.sent_eq
  have hframed := Reply.framed_encoded (deltas (front ++ [last])) status
  rw [Reply.ofString_visible, ← hfront, ← hlast] at hframed
  have hsent : sent (front ++ [last]) = sent front ++ last.sent := by
    rw [Relay.sent_append]
    exact congrArg _ (List.append_nil _)
  rwa [hsent]

/-- A client that reads what a truthful relay sent gets the status of the relay. -/
lemma truthful_decode {m : Id} {t : Turn} {status : Reply.Status}
    (h : Relay.Truthful m t log status) {body : List Reply.Chunk}
    (hbody : Reply.received body = sent log) (found : Reply.Status) :
    .ok (.status found) ∈ Reply.decode body ↔ found = status := by
  have hframed := truthful_framed h
  rw [← hbody] at hframed
  rw [Reply.status_mem_decode]
  refine ⟨fun ⟨text, hfound⟩ => (hfound.unique hframed).2, ?_⟩
  rintro rfl
  exact ⟨_, hframed⟩

/-- A body that was read to its end is what a truthful relay sent. -/
lemma reading_truthful {t : Turn} {m : Id} (hm : t.aiMessageId = some m) {w w₁ : World}
    {s : Stream} {chunks : List Reply.Bytes} {b : Body}
    (hreading : Reading w (.ofTurn t s) chunks w₁ b) (hover : w₁.pull b = (.over, b, w₁)) :
    ∃ log s₁ r status, Session w s { messageId := m, turn := t } log w₁ s₁ r ∧
      chunks.flatten = sent log ∧ Relay.Truthful m t log status := by
  rw [ofTurn_eq hm] at hreading
  obtain ⟨log, s₁, r, rfl, hsession, hsent⟩ := reading_session hreading
  have hr : r.demand = .nothing := by
    obtain ⟨_, _, _, _, hpulled⟩ := pull_pulled hover
    cases hpulled with
    | settled hphase => exact Relay.demand_eq_nothing_iff.2 hphase
  obtain ⟨status, htruthful⟩ := Relay.run_truthful hsession.run hr
  exact ⟨log, s₁, r, status, hsession, hsent, htruthful⟩

/-- Where a truthful relay sent that it was a success, the message is stored with its text. -/
lemma truthful_stored {t : Turn} {m : Id} {w w₁ : World} {s s₁ : Stream} {r : Relay}
    (hsession : Session w s { messageId := m, turn := t } log w₁ s₁ r)
    (h : Relay.Truthful m t log .success) (halone : ∀ c ∈ w.cleanups, c.messageId ≠ m) :
    w₁.chats.memory.content? m = some (t.textWith (deltas log)) ∧
      w₁.chats.slot.text? = some w₁.chats.memory.text :=
  (session_stored hsession halone (h.faithful.success_iff.1 rfl).2).2

end Parley
