import Mathlib.Data.List.Nodup
import Parley.Proofs.Server.Answers
import Parley.Proofs.Server.Books

/-!
# Accounts

An `Account` is a message that was sent, with the answer to it if one was begun. A world is balanced
if its chats are made of its accounts, and every answer shows what it came to (`World.Balanced`).
Time, store calls, and answers that go on or are dropped keep a world balanced.
-/

namespace Parley

open Relay (Exchange)

structure Account where
  sent : Message
  /-- The chat was made for this message. -/
  opens : Bool := false
  answer : Option Answer := none

namespace Account

def chatId (a : Account) : Id := a.sent.chatId

def round (a : Account) : Round :=
  { sent := a.sent, opens := a.opens, reply := a.answer.map (·.message) }

/-- The answers of some accounts. -/
def answers (accounts : List Account) : List Answer := accounts.filterMap (·.answer)

variable {accounts : List Account} {a : Account} {b : Answer}

lemma mem_answers : b ∈ answers accounts ↔ ∃ a ∈ accounts, a.answer = some b :=
  List.mem_filterMap

lemma answers_cons (h : a.answer = some b) (rest : List Account) :
    answers (a :: rest) = b :: answers rest := List.filterMap_cons_some h

lemma mem_answers_middle {b' : Answer} (h : a.answer = some b) {front rest : List Account} :
    b' ∈ answers (front ++ a :: rest) ↔ b' = b ∨ b' ∈ answers (front ++ rest) := by
  rw [answers, List.filterMap_append, List.filterMap_cons_some h, answers, List.filterMap_append,
    List.mem_append, List.mem_cons, List.mem_append]
  exact or_left_comm

/-- The account with its answer as it is now. -/
def update (a : Account) (b : Answer) : Account := { a with answer := some b }

lemma rounds_update {b' : Answer} (h : a.answer = some b) (hmessage : b'.message = b.message)
    (front rest : List Account) :
    (front ++ a.update b' :: rest).map round = (front ++ a :: rest).map round := by
  simp [round, update, h, hmessage]

lemma answers_ids_sublist (accounts : List Account) :
    ((answers accounts).map (·.message.id)).Sublist ((accounts.map round).flatMap Round.ids) := by
  induction accounts with
  | nil => exact .slnil
  | cons a accounts ih =>
    rw [List.map_cons, List.flatMap_cons]
    cases h : a.answer with
    | none =>
      rw [answers, List.filterMap_cons_none h]
      exact ih.trans (List.sublist_append_right ..)
    | some b =>
      rw [answers_cons h, List.map_cons, ← List.singleton_append]
      refine List.Sublist.append ?_ ih
      simp [round, Round.ids, h]

lemma id_mem_ids (hb : b ∈ answers accounts) : ∃ r ∈ accounts.map round, b.message.id ∈ r.ids := by
  obtain ⟨a, ha, hab⟩ := mem_answers.1 hb
  exact ⟨a.round, List.mem_map_of_mem ha, by simp [round, Round.ids, hab]⟩

/-- No two answers have one message. -/
lemma answers_nodup (h : Round.Apart (accounts.map round)) :
    ((answers accounts).map (·.message.id)).Nodup := (answers_ids_sublist accounts).nodup h

lemma other_ne {front rest : List Account} (h : Round.Apart ((front ++ a :: rest).map round))
    (ha : a.answer = some b) : ∀ b' ∈ answers (front ++ rest), b'.message.id ≠ b.message.id := by
  have hnodup := answers_nodup h
  rw [answers, List.filterMap_append, List.filterMap_cons_some ha, List.map_append, List.map_cons,
    List.nodup_middle, ← List.map_append, ← List.filterMap_append] at hnodup
  exact fun b' hb' heq => (List.nodup_cons.1 hnodup).1 (heq ▸ List.mem_map_of_mem hb')

lemma sent_ne (h : Round.Apart (accounts.map round)) (hb : b ∈ answers accounts) :
    ∀ r ∈ accounts.map round, r.sent.id ≠ b.message.id := by
  obtain ⟨a, ha, hab⟩ := mem_answers.1 hb
  exact h.sent_ne (List.mem_map_of_mem ha) (by simp [round, hab])

end Account

open Account (answers)

namespace World

/-- The chats of a world are made of some accounts. Where an answer is over its message says what
was kept of it, or is gone, but for those that are still to be deleted. -/
structure Balanced (w : World) (doomed : List Id) (making : Option Id) (accounts : List Account)
    (deleted : List Id) : Prop where
  books : ∃ shown, w.Books shown making (accounts.map (·.round)) deleted ∧
    ∀ b ∈ answers accounts, b.Shows doomed (shown b.message.id)
  human : ∀ a ∈ accounts, a.sent.sender = .human
  sound : ∀ b ∈ answers accounts, b.Sound
  doomed : ∀ id ∈ doomed, ∃ b ∈ answers accounts,
    b.message.id = id ∧ b.dropped ∧ b.relay.phase ≠ .settled

variable {w w₁ w' : World} {doomed doomed' : List Id} {making : Option Id}
  {accounts front rest : List Account} {deleted : List Id} {a : Account} {b b' : Answer} {id : Id}

namespace Balanced

lemma steady (h : w.Balanced doomed making accounts deleted) (hsteady : w.Steady w')
    (hchats : w'.chats.memory.chats = w.chats.memory.chats) :
    w'.Balanced doomed making accounts deleted := by
  obtain ⟨shown, hbooks, hshows⟩ := h.books
  exact ⟨⟨shown, hbooks.steady hsteady hchats, hshows⟩, h.human, h.sound, h.doomed⟩

lemma doomed_congr (h : w.Balanced doomed making accounts deleted)
    (hdoomed : ∀ id, id ∈ doomed' ↔ id ∈ doomed) : w.Balanced doomed' making accounts deleted := by
  obtain ⟨shown, hbooks, hshows⟩ := h.books
  refine ⟨⟨shown, hbooks, fun b hb => ⟨(hshows b hb).kept, fun hkept hover hid => ?_⟩⟩, h.human,
    h.sound, fun id hid => h.doomed id ((hdoomed id).1 hid)⟩
  exact (hshows b hb).gone hkept hover fun hmem => hid ((hdoomed _).2 hmem)

/-- The message of an answer that was given up is deleted. -/
lemma discarded (h : w.Balanced (id :: doomed) making accounts deleted)
    {reply : Except StoreError Bool} (hperform : w.performChat (.deleteMessage id) = (reply, w')) :
    w'.Balanced doomed making accounts deleted := by
  obtain ⟨shown, hbooks, hshows⟩ := h.books
  obtain ⟨b, hb, rfl, -, hphase⟩ := h.doomed _ List.mem_cons_self
  have hsent := Account.sent_ne hbooks.apart hb
  refine ⟨⟨_, hbooks.discarded hperform hsent, fun b' hb' => ?_⟩, h.human, h.sound,
    fun id hid => h.doomed id (List.mem_cons_of_mem _ hid)⟩
  by_cases hid : b'.message.id = b.message.id
  · obtain rfl := List.inj_on_of_nodup_map (Account.answers_nodup hbooks.apart) hb' hb hid
    rw [Function.update_self]
    exact ⟨fun hkept => absurd ((h.sound b' hb').settled_of_isKept hkept) hphase, fun _ _ _ => rfl⟩
  · rw [Function.update_of_ne hid]
    refine ⟨(hshows b' hb').kept, fun hkept hover hmem => (hshows b' hb').gone hkept hover ?_⟩
    exact fun hmem' => (List.mem_cons.1 hmem').elim hid hmem

lemma tidied {c : Cleanup} (h : w.Balanced (c.messageId :: doomed) making accounts deleted)
    (hc : c.mishap = none) : (w.tidy c).Balanced doomed making accounts deleted := by
  rw [tidy, hc]
  exact h.discarded rfl

lemma tidied_all {cs : List Cleanup}
    (h : w.Balanced (cs.map (·.messageId) ++ doomed) making accounts deleted)
    (hcs : ∀ c ∈ cs, c.mishap = none) :
    (cs.foldl tidy w).Balanced doomed making accounts deleted := by
  induction cs generalizing w with
  | nil => exact h
  | cons c cs ih =>
    rw [List.forall_mem_cons] at hcs
    exact ih (h.tidied hcs.1) hcs.2

lemma tidyAll_cleanups (w : World) (cs : List Cleanup) :
    (cs.foldl tidy w).cleanups = w.cleanups := by
  induction cs generalizing w with
  | nil => rfl
  | cons c cs ih =>
    refine (ih (w.tidy c)).trans ?_
    unfold tidy
    split <;> rfl

/-- What is due is deleted. -/
lemma advance (h : w.Balanced w.doomed making accounts deleted) (t : Nat) :
    (w.advance t).Balanced (w.advance t).doomed making accounts deleted := by
  obtain ⟨shown, hbooks, -⟩ := h.books
  have hdue : ∀ c ∈ w.dueBy t, c.mishap = none := fun c hc =>
    hbooks.obliging.tidies c (mem_dueBy.1 hc).1
  have hdoomed (id : Id) :
      id ∈ (w.dueBy t).map (·.messageId) ++ (w.setClock t).doomed ↔ id ∈ w.doomed := by
    simp only [List.mem_append, List.mem_map, mem_dueBy, World.doomed, setClock, List.mem_filter]
    constructor
    · rintro (⟨c, ⟨hc, -⟩, rfl⟩ | ⟨c, ⟨hc, -⟩, rfl⟩) <;> exact ⟨c, hc, rfl⟩
    · rintro ⟨c, hc, rfl⟩
      by_cases hcdue : c.due ≤ t
      · exact .inl ⟨c, ⟨hc, hcdue⟩, rfl⟩
      · exact .inr ⟨c, ⟨hc, by simpa using hcdue⟩, rfl⟩
  rw [advance_eq, World.doomed, tidyAll_cleanups]
  exact ((h.steady (setClock_steady w t) rfl).doomed_congr hdoomed).tidied_all hdue

theorem lapse (h : w.Balanced w.doomed making accounts deleted) (hlapse : w.Lapse w') :
    w'.Balanced w'.doomed making accounts deleted := by
  induction hlapse with
  | none => exact h
  | beside _ hbeside ih =>
    rw [World.doomed, hbeside.cleanups]
    exact ih.steady hbeside.toSteady hbeside.chats
  | advance _ t ih => exact ih.advance t

/-- One answer changes, and what is shown of its message alone. If the message is now to be deleted
then the answer was dropped. -/
lemma replace (h : w.Balanced doomed making (front ++ a :: rest) deleted) (ha : a.answer = some b)
    (hlive : b.dropped = false) (hmessage : b'.message = b.message) (hsound : b'.Sound)
    (hold : ∀ id ∈ doomed, id ∈ doomed')
    (hnew : ∀ id ∈ doomed', id ∈ doomed ∨
      b'.message.id = id ∧ b'.dropped ∧ b'.relay.phase ≠ .settled)
    (hbooks : ∀ shown, w.Books shown making ((front ++ a :: rest).map (·.round)) deleted →
      b.Shows doomed (shown b.message.id) → ∃ content,
        w'.Books (Function.update shown b.message.id content) making
          ((front ++ a :: rest).map (·.round)) deleted ∧ b'.Shows doomed' content) :
    w'.Balanced doomed' making (front ++ a.update b' :: rest) deleted := by
  obtain ⟨shown, hkept, hshows⟩ := h.books
  have hmem : b ∈ answers (front ++ a :: rest) := (Account.mem_answers_middle ha).2 (.inl rfl)
  have hmem' {b₁ : Answer} (hb₁ : b₁ ∈ answers (front ++ rest)) :
      b₁ ∈ answers (front ++ a :: rest) := (Account.mem_answers_middle ha).2 (.inr hb₁)
  obtain ⟨content, hkept', hshows'⟩ := hbooks shown hkept (hshows b hmem)
  have hother := Account.other_ne hkept.apart ha
  have hanswers (b₁ : Answer) :
      b₁ ∈ answers (front ++ a.update b' :: rest) ↔ b₁ = b' ∨ b₁ ∈ answers (front ++ rest) :=
    Account.mem_answers_middle rfl
  constructor
  case books =>
    refine ⟨_, (Account.rounds_update ha hmessage front rest).symm ▸ hkept', fun b₁ hb₁ => ?_⟩
    obtain rfl | hb₁ := (hanswers b₁).1 hb₁
    · rwa [hmessage, Function.update_self]
    · rw [Function.update_of_ne (hother b₁ hb₁)]
      have hshown := hshows b₁ (hmem' hb₁)
      exact ⟨hshown.kept, fun hkept hover hid => hshown.gone hkept hover (mt (hold _) hid)⟩
  case human =>
    intro a₁ ha₁
    obtain ha₁ | rfl | ha₁ := by simpa using ha₁
    · exact h.human a₁ (by simp [ha₁])
    · exact h.human a (by simp)
    · exact h.human a₁ (by simp [ha₁])
  case sound =>
    intro b₁ hb₁
    obtain rfl | hb₁ := (hanswers b₁).1 hb₁
    · exact hsound
    · exact h.sound b₁ (hmem' hb₁)
  case doomed =>
    intro id hid
    obtain hid | hid := hnew id hid
    · obtain ⟨b₁, hb₁, hid, hdropped, hphase⟩ := h.doomed id hid
      obtain rfl | hb₁ := (Account.mem_answers_middle ha).1 hb₁
      · exact absurd hdropped (by simp [hlive])
      · exact ⟨b₁, (hanswers b₁).2 (.inr hb₁), hid, hdropped, hphase⟩
    · exact ⟨b', (hanswers b').2 (.inl rfl), hid⟩

/-- An answer goes on, with its message alone. -/
lemma proceed (h : w.Balanced doomed making (front ++ a :: rest) deleted) (ha : a.answer = some b)
    (hlive : b.dropped = false) (hmessage : b'.message = b.message) (hsound : b'.Sound)
    (hbooks : ∀ shown, w.Books shown making ((front ++ a :: rest).map (·.round)) deleted →
      ∃ content, w'.Books (Function.update shown b.message.id content) making
        ((front ++ a :: rest).map (·.round)) deleted ∧ b'.Shows doomed content) :
    w'.Balanced doomed making (front ++ a.update b' :: rest) deleted :=
  h.replace ha hlive hmessage hsound (fun _ hid => hid) (fun _ hid => .inl hid)
    fun shown hshown _ => hbooks shown hshown

/-- Nothing is known yet of an answer that goes on. -/
lemma proceed_live (h : w.Balanced doomed making (front ++ a :: rest) deleted)
    (ha : a.answer = some b) (hlive : b.dropped = false) (hmessage : b'.message = b.message)
    (hsound : b'.Sound) (hover : ¬b'.IsOver) :
    w.Balanced doomed making (front ++ a.update b' :: rest) deleted := by
  refine h.proceed ha hlive hmessage hsound fun shown hbooks =>
    ⟨shown b.message.id, ?_, hsound.shows hover⟩
  rwa [Function.update_eq_self]

end Balanced

end World

end Parley
