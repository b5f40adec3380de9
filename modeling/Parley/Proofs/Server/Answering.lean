import Parley.Proofs.Server.Accounts

/-!
# Answers that go on

Whatever its relay hears, an answer goes on in a balanced world, and stays in one when it is
dropped: what its relay then did not get to is left to be done in the background.
-/

namespace Parley

open Relay (Exchange)
open Account (answers)

namespace World

variable {w w₁ w' : World} {making : Option Id} {front rest : List Account} {deleted : List Id}
  {a : Account} {b : Answer} {e : Relay.Event} {d : Relay.Demand} {s : Stream}

lemma performChat_doomed {c : ChatCall} {reply : Except StoreError c.Reply}
    (h : w.performChat c = (reply, w')) : w'.doomed = w.doomed := by
  unfold performChat at h
  cases h
  rfl

lemma hear_lapse (h : w.hear s d = (none, w')) : w.Lapse w' := by
  cases d with
  | item =>
    obtain ⟨item, t, next, -, ⟨-, hwait⟩ | ⟨hanswer, -⟩⟩ := hear_item h
    · exact wait_lapse hwait
    · cases hanswer
  | save id content =>
    obtain ⟨reply, hask, hanswer⟩ := hear_save h
    obtain ⟨w₁, hlapse, ⟨-, rfl⟩ | ⟨r, rfl, -⟩⟩ := askChats_lapse hask
    · exact hlapse
    · cases hanswer
  | discard id =>
    obtain ⟨reply, hask, hanswer⟩ := hear_discard h
    obtain ⟨w₁, hlapse, ⟨-, rfl⟩ | ⟨r, rfl, -⟩⟩ := askChats_lapse hask
    · exact hlapse
    · cases hanswer
  | nothing =>
    cases h
    exact .none

namespace Balanced

/-- The model is heard. -/
lemma heard_item (h : w.Balanced w.doomed making (front ++ a :: rest) deleted)
    (ha : a.answer = some b) (hlive : b.dropped = false) (hphase : b.relay.phase = .listening)
    (he : w.hear b.stream b.relay.demand = (some (e, s), w')) :
    w'.Balanced w'.doomed making (front ++ a.update (b.heard e s) :: rest) deleted := by
  have hsound := (h.sound b ((Account.mem_answers_middle ha).2 (.inl rfl))).heard he
  rw [Relay.demand, hphase] at he
  obtain ⟨item, t, next, -, ⟨hanswer, -⟩ | ⟨hanswer, hwait⟩⟩ := hear_item he <;> cases hanswer
  refine (h.lapse (wait_lapse hwait)).proceed_live ha hlive rfl hsound ?_
  rintro (hsettled | hdropped)
  · obtain _ | _ | text := item <;>
      simp [Answer.heard, Relay.step, hphase, Relay.Event.ofItem] at hsettled
  · simp [Answer.heard, hlive] at hdropped

/-- The reply is written. -/
lemma heard_save (h : w.Balanced w.doomed making (front ++ a :: rest) deleted)
    (ha : a.answer = some b) (hlive : b.dropped = false) (hphase : b.relay.phase = .saving)
    (he : w.hear b.stream b.relay.demand = (some (e, s), w')) :
    w'.Balanced w'.doomed making (front ++ a.update (b.heard e s) :: rest) deleted := by
  have hmem : b ∈ answers (front ++ a :: rest) := (Account.mem_answers_middle ha).2 (.inl rfl)
  have hb := h.sound b hmem
  have hsound := hb.heard he
  rw [Relay.demand, hphase] at he
  obtain ⟨_ | outcome, hask, hanswer⟩ := hear_save he <;> cases hanswer
  obtain ⟨w₁, hlapse, ⟨hnone, -⟩ | ⟨r, hr, hreply⟩⟩ := askChats_lapse hask
  · cases hnone
  obtain rfl := Option.some.inj hr
  cases outcome with
  | error e =>
    have hbeside := chatReply_beside hreply fun _ hcarried => hcarried.failure
    refine (h.lapse (hlapse.beside hbeside)).proceed_live ha hlive rfl hsound ?_
    rintro (hsettled | hdropped)
    · simp [Answer.heard, Relay.step, hphase] at hsettled
    · simp [Answer.heard, hlive] at hdropped
  | ok found =>
    obtain ⟨e, -, hfailed, -⟩ | ⟨r, hmissing, -⟩ | hperform := chatReply_cases hreply
    · cases hfailed
    · obtain ⟨shown, hbooks, -⟩ := h.books
      exact absurd hmissing (hbooks.obliging.finds _)
    · rw [hb.messageId, hb.aiText] at hperform
      rw [performChat_doomed hperform]
      refine (h.lapse hlapse).proceed ha hlive rfl hsound fun shown hbooks =>
        ⟨_, hbooks.saved hperform (Account.sent_ne hbooks.apart hmem), ?_⟩
      cases found with
      | true =>
        refine ⟨fun _ => ?_, fun hkept => ?_⟩
        · rw [Answer.text_heard rfl]
          rfl
        · rw [Answer.isKept_heard, Bool.or_eq_false_iff] at hkept
          cases hkept.2
      | false =>
        refine ⟨fun hkept => ?_, fun _ _ _ => rfl⟩
        rw [Answer.isKept_heard, hb.isKept_eq_false (by simp [hphase])] at hkept
        cases hkept

/-- The message of the reply is given up. -/
lemma heard_discard (h : w.Balanced w.doomed making (front ++ a :: rest) deleted)
    (ha : a.answer = some b) (hlive : b.dropped = false) (hphase : b.relay.phase = .discarding)
    (he : w.hear b.stream b.relay.demand = (some (e, s), w')) :
    w'.Balanced w'.doomed making (front ++ a.update (b.heard e s) :: rest) deleted := by
  have hmem : b ∈ answers (front ++ a :: rest) := (Account.mem_answers_middle ha).2 (.inl rfl)
  have hb := h.sound b hmem
  have hsound := hb.heard he
  rw [Relay.demand, hphase] at he
  obtain ⟨_ | outcome, hask, hanswer⟩ := hear_discard he <;> cases hanswer
  obtain ⟨w₁, hlapse, ⟨hnone, -⟩ | ⟨r, hr, hreply⟩⟩ := askChats_lapse hask
  · cases hnone
  obtain rfl := Option.some.inj hr
  obtain ⟨shown, hbooks, -⟩ := h.books
  have hdone := hbooks.obliging.deletes (w.calls .deleteMessage + 1)
  obtain ⟨e, hfails, -⟩ | ⟨r, hmissing, -⟩ | hperform := chatReply_cases hreply
  · exact absurd (hdone.symm.trans hfails) (by simp)
  · exact absurd (hdone.symm.trans hmissing) (by simp)
  · rw [hb.messageId] at hperform
    rw [performChat_doomed hperform]
    refine (h.lapse hlapse).proceed ha hlive rfl hsound fun shown hbooks =>
      ⟨_, hbooks.discarded hperform (Account.sent_ne hbooks.apart hmem), ?_⟩
    refine ⟨fun hkept => ?_, fun _ _ _ => rfl⟩
    rw [Answer.isKept_heard, hb.isKept_eq_false (by simp [hphase])] at hkept
    cases hkept

/-- An answer goes on with whatever is heard. -/
theorem heard (h : w.Balanced w.doomed making (front ++ a :: rest) deleted)
    (ha : a.answer = some b) (hlive : b.dropped = false)
    (he : w.hear b.stream b.relay.demand = (some (e, s), w')) :
    w'.Balanced w'.doomed making (front ++ a.update (b.heard e s) :: rest) deleted := by
  cases hphase : b.relay.phase with
  | listening => exact h.heard_item ha hlive hphase he
  | saving => exact h.heard_save ha hlive hphase he
  | discarding => exact h.heard_discard ha hlive hphase he
  | settled =>
    rw [Relay.demand, hphase] at he
    cases he

/-- An answer goes on with a session of its relay. -/
theorem session {log : List Exchange} {s₁ : Stream} {r₁ : Relay}
    (h : w.Balanced w.doomed making (front ++ a :: rest) deleted) (ha : a.answer = some b)
    (hlive : b.dropped = false) (hsession : Session w b.stream b.relay log w₁ s₁ r₁) :
    w₁.Balanced w₁.doomed making (front ++ a.update (b.after log s₁ r₁) :: rest) deleted := by
  induction hsession with
  | start =>
    have hsame : a.update (b.after [] b.stream b.relay) = a := by
      simp [Account.update, Answer.after, ← ha]
    rwa [hsame]
  | @heard log w₁ w₂ s₁ s₂ r₁ e _ he ih =>
    have hheard := @Balanced.heard w₁ w₂ _ _ _ _ _ (b.after log s₁ r₁) _ _ ih rfl hlive he
    simpa [Account.update, Answer.after, Answer.heard] using hheard
  | pause _ t ih => exact ih.advance t
  | @within log w₁ s₁ r₁ _ cutoff ih =>
    have hbeside : w₁.Beside { w₁ with cutoff } := beside_of_eq rfl rfl rfl rfl (Nat.le_refl _)
    exact ih.lapse hbeside.lapse

/-- An answer goes on with a pull of its body. -/
theorem pulled {p : Pull} {log : List Exchange} {s₁ : Stream} {r₁ : Relay}
    (h : w.Balanced w.doomed making (front ++ a :: rest) deleted) (ha : a.answer = some b)
    (hlive : b.dropped = false) (hpulled : Pulled w b.stream b.relay p log w₁ s₁ r₁) :
    w₁.Balanced w₁.doomed making (front ++ a.update (b.after log s₁ r₁) :: rest) deleted := by
  cases hpulled with
  | chunk hsession => exact h.session ha hlive hsession
  | settled => exact h.session ha hlive .start
  | pending hsession _ hlost => exact (h.session ha hlive hsession).lapse (hear_lapse hlost)

/-- An answer is dropped where it stands. -/
theorem abandoned (h : w.Balanced w.doomed making (front ++ a :: rest) deleted)
    (ha : a.answer = some b) (hlive : b.dropped = false) :
    (w.abandon (.reply b.relay b.stream)).Balanced (w.abandon (.reply b.relay b.stream)).doomed
      making (front ++ a.update { b with dropped := true } :: rest) deleted := by
  have hmem : b ∈ answers (front ++ a :: rest) := (Account.mem_answers_middle ha).2 (.inl rfl)
  have hb := h.sound b hmem
  have hsound : Answer.Sound { b with dropped := true } :=
    ⟨hb.sender, hb.content, hb.opened, hb.run, hb.taken⟩
  by_cases hphase : b.relay.phase = .settled
  · rw [abandon_settled hphase]
    refine h.replace ha hlive rfl hsound (fun _ hid => hid) (fun _ hid => .inl hid)
      fun shown hbooks hshows => ⟨shown b.message.id, ?_, hshows.kept, fun hkept _ hid => ?_⟩
    · rwa [Function.update_eq_self]
    · exact hshows.gone hkept (.inl hphase) hid
  · have hdoomed : (w.abandon (.reply b.relay b.stream)).doomed = w.doomed ++ [b.message.id] := by
      rw [abandon_armed hphase, ← hb.messageId]
      exact List.map_append
    rw [hdoomed]
    refine h.replace ha hlive rfl hsound (fun _ hid => List.mem_append_left _ hid)
      (fun id hid => ?_) fun shown hbooks hshows => ⟨shown b.message.id, ?_, ?_⟩
    · obtain hid | hid := List.mem_append.1 hid
      · exact .inl hid
      · exact .inr ⟨(List.mem_singleton.1 hid).symm, rfl, hphase⟩
    · rw [Function.update_eq_self, abandon_armed hphase]
      refine hbooks.steady
        ⟨rfl, Nat.le_refl _, fun hw => ⟨hw.deletes, ?_, hw.finds, hw.writable⟩⟩ rfl
      exact List.forall_mem_append.2 ⟨hw.tidies, List.forall_mem_singleton.2 (hw.deletes _)⟩
    · refine ⟨fun hkept => absurd (hb.settled_of_isKept hkept) hphase, fun _ _ hid => ?_⟩
      exact absurd (List.mem_append_right _ (List.mem_singleton_self _)) hid

end Balanced

end World

end Parley
