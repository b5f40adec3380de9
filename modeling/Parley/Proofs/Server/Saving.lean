import Parley.Proofs.Server.Answering
import Parley.Proofs.Server.Posting

/-!
# Messages that are saved

What is told to the calls of a request says which message was saved for it, and whether a chat was
made for that. Then the accounts have one more, in a world that stays balanced.
-/

namespace Parley

namespace Asked

/-- The message that a call saved for a human. -/
def sent? : Asked → Option Message
  | ⟨.chats (.addMessage _ .human _), .ok m⟩ => some m
  | _ => none

/-- The message that a call made for a reply. -/
def placed? : Asked → Option Message
  | ⟨.chats (.addMessage _ .ai _), .ok m⟩ => some m
  | _ => none

/-- The call made a chat. -/
def creates : Asked → Bool
  | ⟨.chats (.create _), .ok _⟩ => true
  | _ => false

end Asked

open Account (answers)
open Sending (Finds Saves Unsaved)

namespace World

variable {w w₁ w' : World} {doomed : List Id} {making : Option Id} {accounts : List Account}
  {deleted deleted' : List Id} {a : Account} {b : Answer} {m : Message} {id : Id}

namespace Balanced

lemma created (h : w.Balanced doomed none accounts deleted) {chat made : Chat}
    (hperform : w.performChat (.create chat) = (.ok made, w')) (hmessages : chat.messages = [])
    (hdrawn : w.stamps.Drawn chat.id) (haccounts : ∀ a ∈ accounts, a.chatId ≠ chat.id) :
    w'.Balanced doomed (some chat.id) accounts deleted := by
  obtain ⟨shown, hbooks, hshows⟩ := h.books
  have hrounds : ∀ r ∈ accounts.map (·.round), r.chatId ≠ chat.id := List.forall_mem_map.2 haccounts
  exact ⟨⟨shown, hbooks.create hperform hmessages hdrawn hrounds, hshows⟩, h.human, h.sound,
    h.doomed⟩

lemma sent (h : w.Balanced doomed making accounts deleted) {content : String}
    (hperform : w.performChat (.addMessage id .human content) = (.ok m, w')) {opens : Bool}
    (hmaking : making = none ∨ making = some id ∧ opens ∧ ∀ a ∈ accounts, a.chatId ≠ id)
    (hw' : w'.stamps.Distinct) :
    w'.Balanced doomed none (accounts ++ [{ sent := m, opens }]) deleted := by
  obtain ⟨shown, hbooks, hshows⟩ := h.books
  have hanswers : answers (accounts ++ [{ sent := m, opens }]) = answers accounts := by
    simp [answers]
  have hhuman : m.sender = .human := (performChat_carried hperform).addMessage.1 ▸ rfl
  have hrounds : making = none ∨
      making = some id ∧ opens ∧ ∀ r ∈ accounts.map (·.round), r.chatId ≠ id := by
    obtain hnone | ⟨hid, hopens, haccounts⟩ := hmaking
    · exact .inl hnone
    · exact .inr ⟨hid, hopens, List.forall_mem_map.2 haccounts⟩
  have hsent := hbooks.sent hperform hrounds hw'
  constructor
  case books =>
    refine ⟨shown, ?_, hanswers ▸ hshows⟩
    rw [List.map_append]
    exact hsent
  case human => exact List.forall_mem_append.2 ⟨h.human, List.forall_mem_singleton.2 hhuman⟩
  case sound => exact hanswers ▸ h.sound
  case doomed => exact hanswers ▸ h.doomed

/-- The last message that was sent gets an answer. -/
lemma placed (h : w.Balanced doomed making (accounts ++ [a]) deleted) (ha : a.answer = none)
    (hperform : w.performChat (.addMessage a.chatId .ai "") = (.ok m, w')) (hb : b.message = m)
    (hsound : b.Sound) (hover : ¬b.IsOver) (hw' : w'.stamps.Distinct) :
    w'.Balanced doomed making (accounts ++ [a.update b]) deleted := by
  obtain ⟨shown, hbooks, hshows⟩ := h.books
  have hold : answers (accounts ++ [a]) = answers accounts := by simp [answers, ha]
  have hnew : answers (accounts ++ [a.update b]) = answers accounts ++ [b] := by
    simp [answers, Account.update]
  rw [List.map_append, List.map_singleton] at hbooks
  have hplaced := hbooks.placed (by simp [Account.round, ha]) hperform hw'
  have hround : { a.round with reply := some m } = (a.update b).round := by
    simp [Account.round, Account.update, hb]
  rw [hround, ← List.map_singleton (f := Account.round), ← List.map_append] at hplaced
  constructor
  case books =>
    refine ⟨_, hplaced, ?_⟩
    rw [hnew]
    refine List.forall_mem_append.2 ⟨fun b₁ hb₁ => ?_, ?_⟩
    · have hne : b₁.message.id ≠ m.id := by
        have hid : m.id = w.draw.1.id := (performChat_carried hperform).addMessage.1 ▸ rfl
        obtain ⟨r, hr, hmem⟩ := Account.id_mem_ids hb₁
        intro heq
        refine hbooks.new_notMem hperform hw' r (List.mem_append_left _ hr) ?_
        rwa [← hid, ← heq]
      rw [Function.update_of_ne hne]
      exact hshows b₁ (hold ▸ hb₁)
    · exact List.forall_mem_singleton.2 (hsound.shows hover)
  case human =>
    obtain ⟨hfront, hlast⟩ := List.forall_mem_append.1 h.human
    refine List.forall_mem_append.2 ⟨hfront, List.forall_mem_singleton.2 ?_⟩
    exact hlast a (List.mem_singleton_self a)
  case sound =>
    rw [hnew]
    exact List.forall_mem_append.2 ⟨hold ▸ h.sound, List.forall_mem_singleton.2 hsound⟩
  case doomed =>
    intro id hid
    obtain ⟨b₁, hb₁, hdone⟩ := h.doomed id hid
    exact ⟨b₁, hnew ▸ List.mem_append_left _ (hold ▸ hb₁), hdone⟩

/-- A chat is deleted. -/
lemma erased (h : w.Balanced doomed making accounts deleted)
    (hperform : w.performChat (.delete id) = (.ok true, w'))
    (hmaking : making = none ∨ making = some id)
    (hdeleted : ∀ a ∈ accounts, a.chatId ∈ deleted ∨ a.chatId = id → a.chatId ∈ deleted') :
    w'.Balanced doomed none accounts deleted' := by
  obtain ⟨shown, hbooks, hshows⟩ := h.books
  exact ⟨⟨shown, hbooks.erase hperform hmaking (List.forall_mem_map.2 hdeleted), hshows⟩, h.human,
    h.sound, h.doomed⟩

variable {s : Sending} {chat : Option Id} {found : Option Chat} {turn : Turn}
  {log looks saves asks : List Asked}

lemma unwritten_quiet {x : Asked} (h : x.call.writes = false) :
    x.sent? = none ∧ x.placed? = none ∧ x.creates = false := by
  obtain ⟨c, r⟩ := x
  cases c with
  | chats c => cases c <;> first | exact ⟨rfl, rfl, rfl⟩ | cases h
  | _ => exact ⟨rfl, rfl, rfl⟩

lemma unwritten_quiet_all (h : ∀ x ∈ log, x.call.writes = false) :
    log.findSome? Asked.sent? = none ∧ log.findSome? Asked.placed? = none ∧
      log.any Asked.creates = false := by
  refine ⟨List.findSome?_eq_none_iff.2 fun x hx => (unwritten_quiet (h x hx)).1,
    List.findSome?_eq_none_iff.2 fun x hx => (unwritten_quiet (h x hx)).2.1,
    List.any_eq_false.2 fun x hx => ?_⟩
  simp [(unwritten_quiet (h x hx)).2.2]

/-- A chat is made for a message. -/
lemma made (h : w.Balanced w.doomed none accounts deleted) {stamp : Stamp} {made : Chat}
    (hreplied : Task.Replied answer w
      [⟨.stamp, stamp⟩, ⟨.chats (.create (s.newChat stamp)), .ok made⟩] w')
    (hw' : w'.stamps.Distinct) :
    made.id = stamp.id ∧ (∀ a ∈ accounts, a.chatId ≠ stamp.id) ∧
      w'.Balanced w'.doomed (some stamp.id) accounts deleted := by
  obtain ⟨w₁, hstamp, hrest⟩ := Task.replied_cons_iff.1 hreplied
  have hcreate := Task.replied_singleton_iff.1 hrest
  obtain ⟨w₀, hlapse, hperform⟩ := answer_performed hcreate (Option.some_ne_none _).symm
  have hlapsed := (answer_lapse (.inr rfl) hstamp).trans hlapse
  obtain ⟨hdraw, rfl⟩ := Prod.mk.inj hstamp
  obtain rfl := Option.some.inj hdraw
  obtain ⟨shown, hbooks, -⟩ := h.books
  have hdistinct := (hlapse.steady.trans (performChat_steady hperform)).distinct hw'
  have hfresh : ∀ a ∈ accounts, a.chatId ≠ w.draw.1.id := by
    intro a ha heq
    refine draw_fresh hdistinct ?_
    rw [← heq]
    exact hbooks.drawn a.round (List.mem_map_of_mem ha) _ List.mem_cons_self
  have hdrawn : w.draw.2.stamps.Drawn w.draw.1.id := ⟨w.stamps.drawn, Nat.lt_succ_self _, rfl⟩
  have hmade : made = s.newChat w.draw.1 := (performChat_carried hperform).create.1
  refine ⟨hmade ▸ rfl, hfresh, ?_⟩
  rw [performChat_doomed hperform]
  exact (h.lapse hlapsed).created hperform rfl (hlapse.steady.drawn_of hdrawn) hfresh

/-- A message is saved in its chat. -/
lemma saved (h : w.Balanced w.doomed none accounts deleted) (hsaves : Saves s found log turn)
    (hreplied : Task.Replied answer w log w') (hw' : w'.stamps.Distinct) :
    ∃ sent, log.findSome? Asked.sent? = some sent ∧ log.findSome? Asked.placed? = none ∧
      sent.chatId = turn.chatId ∧ turn.aiText = "" ∧
      w'.Balanced w'.doomed none (accounts ++ [{ sent, opens := log.any Asked.creates }])
        deleted := by
  cases hsaves with
  | there chat sent =>
    have hadd := Task.replied_singleton_iff.1 hreplied
    obtain ⟨w₀, hlapse, hperform⟩ := answer_performed hadd (Option.some_ne_none _).symm
    have hchat : sent.chatId = chat.id := (performChat_carried hperform).addMessage.1 ▸ rfl
    refine ⟨sent, rfl, rfl, hchat, rfl, ?_⟩
    rw [performChat_doomed hperform]
    exact (h.lapse hlapse).sent hperform (.inl rfl) hw'
  | new stamp made sent =>
    have hreplied : Task.Replied answer w ([_, _] ++ [_]) w' := hreplied
    obtain ⟨w₁, hmade, hrest⟩ := Task.replied_append_iff.1 hreplied
    have hadd := Task.replied_singleton_iff.1 hrest
    obtain ⟨w₀, hlapse, hperform⟩ := answer_performed hadd (Option.some_ne_none _).symm
    have hw₁ := (hlapse.steady.trans (performChat_steady hperform)).distinct hw'
    obtain ⟨hid, hfresh, hbalanced⟩ := h.made hmade hw₁
    have hchat : sent.chatId = made.id := (performChat_carried hperform).addMessage.1 ▸ rfl
    refine ⟨sent, rfl, rfl, hchat, rfl, ?_⟩
    rw [performChat_doomed hperform]
    have hmaking := congrArg some hid.symm
    exact (hbalanced.lapse hlapse).sent hperform (.inr ⟨hmaking, rfl, hid ▸ hfresh⟩) hw'

/-- A message is saved, and then the model is asked. -/
lemma asked (h : w.Balanced w.doomed none accounts deleted) (hlooks : Finds chat looks found)
    (hsaves : Saves s found saves turn) (hasks : ∀ x ∈ asks, x.call.writes = false)
    (hreplied : Task.Replied answer w (looks ++ saves ++ asks) w') (hw' : w'.stamps.Distinct) :
    ∃ sent, (looks ++ saves ++ asks).findSome? Asked.sent? = some sent ∧
      (looks ++ saves ++ asks).findSome? Asked.placed? = none ∧
      sent.chatId = turn.chatId ∧ turn.aiText = "" ∧
      w'.Balanced w'.doomed none
        (accounts ++ [{ sent, opens := (looks ++ saves ++ asks).any Asked.creates }]) deleted := by
  obtain ⟨w₂, hfront, hrest⟩ := Task.replied_append_iff.1 hreplied
  obtain ⟨w₁, hlooked, hsaved⟩ := Task.replied_append_iff.1 hfront
  have hlooks₀ := replied_lapse hlooks.unwritten hlooked
  have hlapse := replied_lapse hasks hrest
  obtain ⟨sent, hsent, hplaced, hchat, htext, hbalanced⟩ :=
    (h.lapse hlooks₀).saved hsaves hsaved (hlapse.steady.distinct hw')
  obtain ⟨hlooks₁, hlooks₂, hlooks₃⟩ := unwritten_quiet_all hlooks.unwritten
  obtain ⟨hasks₁, hasks₂, hasks₃⟩ := unwritten_quiet_all hasks
  refine ⟨sent, ?_, ?_, hchat, htext, ?_⟩
  · simp [List.findSome?_append, hlooks₁, hsent]
  · simp [List.findSome?_append, hlooks₂, hplaced, hasks₂]
  · rw [List.any_append, List.any_append, hlooks₃, hasks₃, Bool.false_or, Bool.or_false]
    exact hbalanced.lapse hlapse

lemma unsaved {r : Refusal} (h : w.Balanced w.doomed none accounts deleted)
    (hunsaved : Unsaved s found log r) (hreplied : Task.Replied answer w log w')
    (hdeletes : ∀ id reply, ⟨.chats (.delete id), reply⟩ ∈ log → reply = .ok true)
    (hw' : w'.stamps.Distinct) :
    log.findSome? Asked.sent? = none ∧ w'.Balanced w'.doomed none accounts deleted := by
  cases hunsaved with
  | unsent chat e =>
    have hadd := Task.replied_singleton_iff.1 hreplied
    exact ⟨rfl, h.lapse (answer_failed hadd)⟩
  | uncreated stamp e =>
    obtain ⟨w₁, hstamp, hrest⟩ := Task.replied_cons_iff.1 hreplied
    have hcreate := Task.replied_singleton_iff.1 hrest
    exact ⟨rfl, h.lapse ((answer_lapse (.inr rfl) hstamp).trans (answer_failed hcreate))⟩
  | undone stamp made e reply =>
    have hreplied : Task.Replied answer w ([_, _] ++ [_, _]) w' := hreplied
    obtain ⟨w₁, hmade, hrest⟩ := Task.replied_append_iff.1 hreplied
    obtain ⟨w₂, hadd, hrest⟩ := Task.replied_cons_iff.1 hrest
    have hdelete := Task.replied_singleton_iff.1 hrest
    obtain rfl := hdeletes made.id reply (by simp)
    obtain ⟨w₀, hlapse, hperform⟩ := answer_performed hdelete (by simp [ChatCall.absent?])
    have hfailed := (answer_failed hadd).trans hlapse
    have hw₁ := (hfailed.steady.trans (performChat_steady hperform)).distinct hw'
    obtain ⟨hid, hfresh, hbalanced⟩ := h.made hmade hw₁
    refine ⟨rfl, ?_⟩
    rw [performChat_doomed hperform]
    refine (hbalanced.lapse hfailed).erased hperform
      (.inr (congrArg some hid.symm)) fun a ha hgone => ?_
    exact hgone.resolve_right fun heq => hfresh a ha (heq.trans hid)

end Balanced

end World

end Parley
