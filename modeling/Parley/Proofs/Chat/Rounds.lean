import Mathlib.Data.List.Nodup
import Mathlib.Data.List.Pairwise
import Mathlib.Logic.Function.Basic
import Parley.Proofs.Chat.Calls
import Parley.Proofs.Chat.Content

/-!
# Rounds of a chat

A round is a message that was sent and the message made for its reply, if there was one. A ledger
tells of some rounds if each of its chats is made of the rounds in it, in order, with what is still
there of their replies (`Ledger.Tells`).
-/

namespace Parley

structure Round where
  sent : Message
  /-- The chat was made for this message. -/
  opens : Bool := false
  reply : Option Message := none

namespace Round

def chatId (r : Round) : Id := r.sent.chatId

def ids (r : Round) : List Id := r.sent.id :: r.reply.toList.map (·.id)

/-- What a reply says now, if it is still there. -/
def shownReply (shown : Id → Option String) (m : Message) : Option Message :=
  (shown m.id).map fun content => { m with content }

/-- The messages of a round, where `shown` is what each reply says that is still there. -/
def messages (shown : Id → Option String) (r : Round) : List Message :=
  r.sent :: (r.reply.bind (shownReply shown)).toList

variable {shown : Id → Option String} {r : Round} {id : Id}

lemma messages_ids : ((r.messages shown).map (·.id)).Sublist r.ids := by
  rw [messages, ids, List.map_cons]
  refine List.Sublist.cons_cons _ ?_
  cases r.reply with
  | none => exact .slnil
  | some m =>
    cases h : shown m.id with
    | none => simp [shownReply, h]
    | some content => simp [shownReply, h]

/-- A reply that is gone. -/
lemma messages_gone (hsent : r.sent.id ≠ id) :
    r.messages (Function.update shown id none) = (r.messages shown).filter (·.id ≠ id) := by
  rw [messages, messages, List.filter_cons_of_pos (by simpa using hsent)]
  cases r.reply with
  | none => rfl
  | some m =>
    by_cases hm : m.id = id
    · cases h : shown m.id <;> simp [shownReply, hm, hm ▸ h]
    · cases h : shown m.id <;> simp [shownReply, hm, h]

/-- A message with a new text, if it is the one that is meant. -/
def retext (id : Id) (content : String) (m : Message) : Message :=
  if m.id = id then { m with content } else m

/-- A reply that says something else. -/
lemma messages_retext (hsent : r.sent.id ≠ id) (hshown : shown id ≠ none) (content : String) :
    r.messages (Function.update shown id (some content)) =
      (r.messages shown).map (retext id content) := by
  rw [messages, messages, List.map_cons, retext, if_neg hsent]
  cases r.reply with
  | none => rfl
  | some m =>
    by_cases hm : m.id = id
    · obtain ⟨old, hold⟩ := Option.ne_none_iff_exists'.1 hshown
      simp [shownReply, hm, hold, retext]
    · cases h : shown m.id <;> simp [shownReply, hm, h, retext]

lemma messages_other (hid : id ∉ r.ids) (content : Option String) :
    r.messages (Function.update shown id content) = r.messages shown := by
  rw [messages, messages]
  cases hr : r.reply with
  | none => rfl
  | some m =>
    have hm : m.id ≠ id := fun h => hid (by simp [ids, hr, h])
    simp [shownReply, hm]

/-- No two rounds have a message in common, and none has one twice. -/
def Apart (rounds : List Round) : Prop := (rounds.flatMap ids).Nodup

variable {rounds : List Round} {r' : Round}

lemma Apart.eq (h : Apart rounds) (hr : r ∈ rounds) (hr' : r' ∈ rounds) (hid : id ∈ r.ids)
    (hid' : id ∈ r'.ids) : r = r' := by
  have : Std.Symm (Function.onFun List.Disjoint ids) := ⟨fun _ _ h _ ha hb => h hb ha⟩
  by_contra hne
  exact (List.nodup_flatMap.1 h).2.forall hr hr' hne hid hid'

/-- The message of a reply was not sent. -/
lemma Apart.sent_ne (h : Apart rounds) (hr : r ∈ rounds) {m : Message} (hm : r.reply = some m) :
    ∀ r' ∈ rounds, r'.sent.id ≠ m.id := by
  intro r' hr' hid
  have hreply : m.id ∈ r.ids := by simp [ids, hm]
  obtain rfl := h.eq hr' hr (hid ▸ List.mem_cons_self) hreply
  have hnodup := (List.nodup_flatMap.1 h).1 _ hr
  simp [ids, hm, hid] at hnodup

lemma apart_append : Apart (rounds ++ [r]) ↔
    Apart rounds ∧ r.ids.Nodup ∧ ∀ r' ∈ rounds, ∀ id ∈ r.ids, id ∉ r'.ids := by
  rw [Apart, List.flatMap_append, List.flatMap_singleton, List.nodup_append]
  refine and_congr_right fun _ => and_congr_right fun _ => ⟨fun h r' hr' id hid hid' => ?_, ?_⟩
  · exact h id (List.mem_flatMap.2 ⟨r', hr', hid'⟩) id hid rfl
  · rintro h id hid id' hid' rfl
    obtain ⟨r', hr', hmem⟩ := List.mem_flatMap.1 hid
    exact h r' hr' id hid' hmem

/-- A chat still begins with the round it was made for when a message is sent, which may be that
round. -/
lemma first_sent {m : Message} {opens : Bool}
    (h : (∃ r, rounds.find? (·.chatId = id) = some r ∧ r.opens) ∨
      m.chatId = id ∧ opens ∧ ∀ r ∈ rounds, r.chatId ≠ id) :
    ∃ r, (rounds ++ [({ sent := m, opens } : Round)]).find? (·.chatId = id) = some r ∧
      r.opens := by
  rw [List.find?_append]
  obtain ⟨r, hr, hopens⟩ | ⟨hchat, hopens, hrounds⟩ := h
  · exact ⟨r, by rw [hr, Option.some_or], hopens⟩
  · have hnone : rounds.find? (·.chatId = id) = none :=
      List.find?_eq_none.2 fun r hr => by simpa using hrounds r hr
    refine ⟨{ sent := m, opens }, ?_, hopens⟩
    rw [hnone, Option.none_or, List.find?_singleton]
    exact if_pos (decide_eq_true hchat)

/-- A round whose message has a place for its reply. -/
lemma ids_placed (hr : r.reply = none) (m : Message) :
    ids { r with reply := some m } = r.ids ++ [m.id] := by
  simp [ids, hr]

lemma Apart.placed (h : Apart (rounds ++ [r])) (hr : r.reply = none) {m : Message}
    (hnew : ∀ r' ∈ rounds ++ [r], m.id ∉ r'.ids) :
    Apart (rounds ++ [{ r with reply := some m }]) := by
  obtain ⟨hapart, hnodup, hdisjoint⟩ := apart_append.1 h
  refine apart_append.2 ⟨hapart, ?_, fun r' hr' id hid => ?_⟩
  · rw [ids_placed hr, List.nodup_append]
    refine ⟨hnodup, List.nodup_singleton _, fun id hid id' hid' heq => ?_⟩
    have hlast : m.id ∉ r.ids := hnew r (by simp)
    exact hlast (List.mem_singleton.1 hid' ▸ heq ▸ hid)
  · rw [ids_placed hr] at hid
    obtain hid | hid := List.mem_append.1 hid
    · exact hdisjoint r' hr' id hid
    · exact List.mem_singleton.1 hid ▸ hnew r' (List.mem_append_left _ hr')

/-- A chat still begins with the round it was made for when the last round gets a reply. -/
lemma first_placed (m : Message)
    (h : ∃ r', (rounds ++ [r]).find? (·.chatId = id) = some r' ∧ r'.opens) :
    ∃ r', (rounds ++ [({ r with reply := some m } : Round)]).find? (·.chatId = id) = some r' ∧
      r'.opens := by
  obtain ⟨r', hr', hopens⟩ := h
  rw [List.find?_append] at hr' ⊢
  cases hfront : rounds.find? (·.chatId = id) with
  | some r₁ =>
    rw [hfront] at hr'
    exact ⟨r', hr', hopens⟩
  | none =>
    rw [hfront, Option.none_or, List.find?_singleton] at hr'
    split_ifs at hr' with hchat
    obtain rfl := Option.some.inj hr'
    refine ⟨{ r with reply := some m }, ?_, hopens⟩
    rw [Option.none_or, List.find?_singleton]
    exact if_pos hchat

lemma ids_sublist (rounds : List Round) :
    ((rounds.flatMap (messages shown)).map (·.id)).Sublist (rounds.flatMap ids) := by
  induction rounds with
  | nil => exact .slnil
  | cons r rounds ih =>
    rw [List.flatMap_cons, List.flatMap_cons, List.map_append]
    exact messages_ids.append ih

lemma flatMap_sublist {front : List Round} (h : front.Sublist rounds) :
    (front.flatMap ids).Sublist (rounds.flatMap ids) := by
  induction h with
  | slnil => exact .slnil
  | cons r _ ih => exact ih.trans (List.sublist_append_right r.ids _)
  | cons_cons r _ ih => exact ih.append_left r.ids

end Round

lemma Chat.setContent_eq_map {id : Id} {content : String} {ms : List Message}
    (h : (ms.map (·.id)).Nodup) : setContent id content ms = ms.map (Round.retext id content) := by
  induction ms with
  | nil => rfl
  | cons m ms ih =>
    obtain ⟨hm, hms⟩ := List.nodup_cons.1 (List.map_cons ▸ h)
    rw [setContent, List.map_cons, Round.retext]
    by_cases hid : m.id = id
    · have hrest : ms.map (Round.retext id content) = ms := by
        refine (List.map_congr_left fun m' hm' => ?_).trans (List.map_id ms)
        exact if_neg fun h => hm (List.mem_map.2 ⟨m', hm', h.trans hid.symm⟩)
      rw [if_pos hid, if_pos hid, hrest]
    · rw [if_neg hid, if_neg hid, ih hms]

namespace Ledger

def ids (l : Ledger) : List Id := l.chats.map (·.id)

/-- Every chat is made of the rounds in it. -/
structure Tells (l : Ledger) (shown : Id → Option String) (rounds : List Round) : Prop where
  distinct : l.ids.Nodup
  messages : ∀ c ∈ l.chats, c.messages =
    (rounds.filter (·.chatId = c.id)).flatMap (Round.messages shown)

variable {l : Ledger} {shown : Id → Option String} {rounds : List Round} {r : Round} {id : Id}
  {c : Chat}

open Round (Apart)

lemma contains_iff : l.contains id ↔ id ∈ l.ids := by
  simp [contains, ids]

lemma ids_modify {f : Chat → Chat} (hf : ∀ c, (f c).id = c.id) : (l.modify id f).ids = l.ids := by
  rw [ids, ids, modify, List.map_map]
  refine List.map_congr_left fun c _ => ?_
  rw [Function.comp_apply]
  split_ifs
  · exact hf c
  · rfl

lemma mem_ids_erase {id' : Id} : id' ∈ (l.erase id).ids ↔ id' ∈ l.ids ∧ id' ≠ id := by
  simp only [ids, erase, List.mem_map, List.mem_filter, decide_eq_true_eq]
  constructor
  · rintro ⟨c, ⟨hc, hne⟩, rfl⟩
    exact ⟨⟨c, hc, rfl⟩, hne⟩
  · rintro ⟨⟨c, hc, rfl⟩, hne⟩
    exact ⟨c, ⟨hc, hne⟩, rfl⟩

lemma nodup_ids_insert (h : l.ids.Nodup) (hnew : c.id ∉ l.ids) : (l.insert c).ids.Nodup := by
  rw [ids, insert, List.map_append, List.map_singleton, ← List.concat_eq_append]
  exact h.concat hnew

lemma nodup_ids_erase (h : l.ids.Nodup) (id : Id) : (l.erase id).ids.Nodup :=
  (List.filter_sublist.map _).nodup h

/-- Where no identifier occurs twice in a chat or in two chats, all messages have identifiers of
their own. -/
lemma nodup_messages (hids : l.ids.Nodup) (honce : ∀ id, l.Once id)
    (hmessages : ∀ c ∈ l.chats, (c.messages.map (·.id)).Nodup) :
    (l.chats.flatMap fun c => c.messages.map (·.id)).Nodup := by
  refine List.nodup_flatMap.2 ⟨hmessages, ?_⟩
  have hdistinct : l.chats.Pairwise fun c c' => c.id ≠ c'.id := List.pairwise_map.1 hids
  refine hdistinct.imp_of_mem fun {c c'} hc hc' hne id hid hid' => hne ?_
  obtain ⟨m, hm, rfl⟩ := List.mem_map.1 hid
  obtain ⟨m', hm', hsame⟩ := List.mem_map.1 hid'
  refine honce m.id c hc c' hc' ?_ ?_
  · exact List.any_eq_true.2 ⟨m, hm, decide_eq_true rfl⟩
  · exact List.any_eq_true.2 ⟨m', hm', decide_eq_true hsame⟩

namespace Tells

lemma congr {l' : Ledger} (h : l.Tells shown rounds) (hchats : l'.chats = l.chats) :
    l'.Tells shown rounds :=
  ⟨(congrArg (·.map (·.id)) hchats : l'.ids = l.ids) ▸ h.distinct, hchats ▸ h.messages⟩

lemma ids_nodup (h : l.Tells shown rounds) (hapart : Apart rounds) (hc : c ∈ l.chats) :
    (c.messages.map (·.id)).Nodup := by
  rw [h.messages c hc]
  exact ((Round.ids_sublist _).trans (Round.flatMap_sublist List.filter_sublist)).nodup hapart

lemma round_of_hasMessage (h : l.Tells shown rounds) (hc : c ∈ l.chats) (hid : c.hasMessage id) :
    ∃ r ∈ rounds, r.chatId = c.id ∧ id ∈ r.ids := by
  obtain ⟨m, hm, hm'⟩ := List.any_eq_true.1 hid
  obtain rfl := of_decide_eq_true hm'
  rw [h.messages c hc] at hm
  obtain ⟨r, hr, hmr⟩ := List.mem_flatMap.1 hm
  obtain ⟨hr, hchat⟩ := List.mem_filter.1 hr
  exact ⟨r, hr, of_decide_eq_true hchat, Round.messages_ids.subset (List.mem_map_of_mem hmr)⟩

lemma once (h : l.Tells shown rounds) (hapart : Apart rounds) (id : Id) : l.Once id := by
  intro c hc c' hc' hid hid'
  obtain ⟨r, hr, hchat, hmem⟩ := h.round_of_hasMessage hc hid
  obtain ⟨r', hr', hchat', hmem'⟩ := h.round_of_hasMessage hc' hid'
  rw [← hchat, ← hchat', hapart.eq hr hr' hmem hmem']

lemma messages_nodup (h : l.Tells shown rounds) (hapart : Apart rounds) :
    (l.chats.flatMap fun c => c.messages.map (·.id)).Nodup :=
  nodup_messages h.distinct (h.once hapart) fun _ hc => h.ids_nodup hapart hc

/-- A reply that is gone is left out of its chat. -/
lemma messages_gone (h : l.Tells shown rounds) (hsent : ∀ r ∈ rounds, r.sent.id ≠ id)
    (hc : c ∈ l.chats) :
    (rounds.filter (·.chatId = c.id)).flatMap (Round.messages (Function.update shown id none)) =
      c.messages.filter (·.id ≠ id) := by
  rw [h.messages c hc, List.filter_flatMap]
  exact List.flatMap_congr fun r hr => Round.messages_gone (hsent r (List.mem_filter.1 hr).1)

lemma messages_retext (h : l.Tells shown rounds) (hsent : ∀ r ∈ rounds, r.sent.id ≠ id)
    (hshown : shown id ≠ none) (content : String) (hc : c ∈ l.chats) :
    (rounds.filter (·.chatId = c.id)).flatMap
      (Round.messages (Function.update shown id (some content))) =
      c.messages.map (Round.retext id content) := by
  rw [h.messages c hc, List.map_flatMap]
  exact List.flatMap_congr fun r hr =>
    Round.messages_retext (hsent r (List.mem_filter.1 hr).1) hshown content

lemma insert (h : l.Tells shown rounds) (hfresh : l.contains c.id = false)
    (hmessages : c.messages = []) (hrounds : ∀ r ∈ rounds, r.chatId ≠ c.id) :
    (l.insert c).Tells shown rounds where
  distinct := nodup_ids_insert h.distinct (mt contains_iff.2 (Bool.eq_false_iff.1 hfresh))
  messages d hd := by
    rcases List.mem_append.1 hd with hd | hd
    · exact h.messages d hd
    · obtain rfl := List.mem_singleton.1 hd
      rw [hmessages, List.filter_eq_nil_iff.2 fun r hr => by simpa using hrounds r hr]
      rfl

lemma erase (h : l.Tells shown rounds) (id : Id) : (l.erase id).Tells shown rounds where
  distinct := nodup_ids_erase h.distinct id
  messages c hc := h.messages c (List.mem_filter.1 hc).1

lemma modify {shown' : Id → Option String} {rounds' : List Round} {f : Chat → Chat}
    (h : l.Tells shown rounds) (hf : ∀ c, (f c).id = c.id)
    (hmessages : ∀ c ∈ l.chats, (if c.id = id then f c else c).messages =
      (rounds'.filter (·.chatId = c.id)).flatMap (Round.messages shown')) :
    (l.modify id f).Tells shown' rounds' where
  distinct := (ids_modify hf).symm ▸ h.distinct
  messages c hc := by
    obtain ⟨d, hd, rfl⟩ := List.mem_map.1 hc
    rw [hmessages d hd]
    split_ifs
    · rw [hf d]
    · rfl

/-- A message that is sent begins a round. -/
lemma sent (h : l.Tells shown rounds) (hr : r.reply = none) (now : Timestamp) :
    (l.modify r.chatId (·.addMessage r.sent now)).Tells shown (rounds ++ [r]) := by
  refine h.modify (fun _ => rfl) fun c hc => ?_
  rw [List.filter_append, List.flatMap_append, ← h.messages c hc, List.filter_singleton]
  by_cases hid : r.chatId = c.id
  · simp [hid, hr, Chat.addMessage, Round.messages]
  · simp [hid, Ne.symm hid]

/-- A message that is empty holds the place of the reply. -/
lemma placed {m : Message} (h : l.Tells shown (rounds ++ [r])) (hr : r.reply = none)
    (hcontent : m.content = "") (hfresh : ∀ r ∈ rounds, m.id ∉ r.ids) (now : Timestamp) :
    (l.modify r.chatId (·.addMessage m now)).Tells (Function.update shown m.id (some ""))
      (rounds ++ [{ r with reply := some m }]) := by
  refine h.modify (fun _ => rfl) fun c hc => ?_
  have hrest : (rounds.filter (·.chatId = c.id)).flatMap
      (Round.messages (Function.update shown m.id (some ""))) =
      (rounds.filter (·.chatId = c.id)).flatMap (Round.messages shown) :=
    List.flatMap_congr fun r hr => Round.messages_other (hfresh r (List.mem_filter.1 hr).1) _
  have hreply : Round.shownReply (Function.update shown m.id (some "")) m = some m := by
    simp [Round.shownReply, ← hcontent]
  have hmessages := h.messages c hc
  rw [List.filter_append, List.flatMap_append, List.filter_singleton] at hmessages ⊢
  rw [hrest]
  by_cases hid : r.sent.chatId = c.id
  · simp [Round.chatId, hid, hmessages, hr, Chat.addMessage, Round.messages, hreply]
  · simp [Round.chatId, hid, hmessages, Ne.symm hid]

/-- A change of a message is a change of the chat that holds it. -/
lemma changed {shown' : Id → Option String} {f : Chat → Chat} {g : List Message → List Message}
    (h : l.Tells shown rounds) (hapart : Apart rounds) (hchat : l.chatOf? id = some c)
    (hf : ∀ c, (f c).id = c.id) (hg : ∀ c ∈ l.chats, (f c).messages = g c.messages)
    (hother : ∀ c : Chat, c.hasMessage id = false → g c.messages = c.messages)
    (hshown' : ∀ c ∈ l.chats, (rounds.filter (·.chatId = c.id)).flatMap
      (Round.messages shown') = g c.messages) : (l.modify c.id f).Tells shown' rounds := by
  refine h.modify hf fun d hd => ?_
  rw [hshown' d hd]
  split_ifs with hid
  · exact hg d hd
  · refine (hother d (Bool.eq_false_iff.2 fun hhas => hid ?_)).symm
    have hhas' := List.find?_some hchat
    exact h.once hapart id d hd c (List.mem_of_find?_eq_some hchat) hhas hhas'

end Tells

variable {v v' : ChatVault} {content : String} {now : Timestamp}

lemma hasMessage_eq_false_iff : c.hasMessage id = false ↔ ∀ m ∈ c.messages, m.id ≠ id := by
  simp [Chat.hasMessage]

/-- A reply that was deleted is gone, and so is one that was not there. -/
lemma Tells.deleted {reply : Except StoreError Bool} (h : v.memory.Tells shown rounds)
    (hapart : Apart rounds) (hsent : ∀ r ∈ rounds, r.sent.id ≠ id) (hwritable : v.slot.Writable)
    (hchanged : ChatVault.Changed v id (·.deleteMessage id now) reply v') :
    v'.memory.Tells (Function.update shown id none) rounds := by
  have hother (c : Chat) (hc : c.hasMessage id = false) :
      c.messages.filter (·.id ≠ id) = c.messages :=
    List.filter_eq_self.2 fun m hm => decide_eq_true (hasMessage_eq_false_iff.1 hc m hm)
  cases hchanged with
  | made hchat =>
    exact h.changed hapart hchat (fun _ => rfl) (fun _ _ => rfl) hother
      fun c hc => h.messages_gone hsent hc
  | absent hgone =>
    refine ⟨h.distinct, fun c hc => ?_⟩
    rw [h.messages_gone hsent hc, hother c (content?_eq_none_iff.1 hgone c hc)]
  | refused _ hslot => exact absurd hwritable hslot

/-- A reply that was written says what was written, if it was still there. -/
lemma Tells.updated {found : Bool} (h : v.memory.Tells shown rounds) (hapart : Apart rounds)
    (hsent : ∀ r ∈ rounds, r.sent.id ≠ id)
    (hchanged : ChatVault.Changed v id (·.updateMessage id content now) (.ok found) v') :
    v'.memory.Tells (Function.update shown id (if found then some content else none)) rounds := by
  have hother (c : Chat) (hc : c.hasMessage id = false) :
      c.messages.map (Round.retext id content) = c.messages :=
    (List.map_congr_left fun m hm => if_neg (hasMessage_eq_false_iff.1 hc m hm)).trans
      (List.map_id _)
  cases hchanged with
  | @made chat _ hchat =>
    have hchat' := List.mem_of_find?_eq_some hchat
    have hshown : shown id ≠ none := fun hnone => by
      have hgone := h.messages_gone hsent hchat'
      rw [Function.update_eq_self_iff.2 hnone.symm, ← h.messages chat hchat'] at hgone
      have hhas := List.find?_some hchat
      rw [Chat.hasMessage, hgone] at hhas
      simp at hhas
    exact h.changed hapart hchat (fun _ => rfl)
      (fun d hd => Chat.setContent_eq_map (h.ids_nodup hapart hd)) hother
      fun d hd => h.messages_retext hsent hshown content hd
  | absent hgone =>
    refine ⟨h.distinct, fun c hc => ?_⟩
    rw [if_neg Bool.false_ne_true, h.messages_gone hsent hc]
    refine (List.filter_eq_self.2 fun m hm => decide_eq_true ?_).symm
    exact hasMessage_eq_false_iff.1 (content?_eq_none_iff.1 hgone c hc) m hm

end Ledger

end Parley
