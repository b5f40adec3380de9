import Mathlib.Tactic.Lemma
import Mathlib.Tactic.SplitIfs
import Parley.Chat.Ledger

/-!
# What writing and deleting messages does to a ledger

A message is written or deleted in the chat that holds it, and every other message stays as it was
(`perform_spares`). What a vault says of such a call is what happened to its ledger and its slot
(`perform_update`, `perform_delete`).
-/

namespace Parley

/-- A text can be written into the slot. -/
def Slot.Writable (s : Slot) : Prop := s.refusal = none ∧ s.entry ≠ .folder

lemma Slot.write_ok {s s' : Slot} {text : String} (h : s.write text = .ok s') :
    s'.text? = some text ∧ s'.Writable := by
  unfold write at h
  split at h <;> cases h
  next hrefusal _ => exact ⟨rfl, hrefusal, by simp⟩

lemma Slot.write_error {s : Slot} {text : String} {e : StoreError} (h : s.write text = .error e) :
    ¬s.Writable := by
  rintro ⟨hrefusal, hentry⟩
  unfold write at h
  split at h <;> simp_all

namespace Ledger

def message? (l : Ledger) (id : Id) : Option Message := l.chats.findSome? (·.message? id)

/-- What a message says, if it is there. -/
def content? (l : Ledger) (id : Id) : Option String := (l.message? id).map (·.content)

/-- All messages but some, with their chats. -/
def besides (l : Ledger) (ids : List Id) : List (Id × List Message) :=
  l.chats.map fun c => (c.id, c.messages.filter (·.id ∉ ids))

/-- A message is in one chat at most. -/
def Once (l : Ledger) (id : Id) : Prop :=
  ∀ c ∈ l.chats, ∀ c' ∈ l.chats, c.hasMessage id → c'.hasMessage id → c.id = c'.id

end Ledger

namespace Chat

lemma message?_eq_none_iff {c : Chat} {id : Id} :
    c.message? id = none ↔ c.hasMessage id = false := by
  simp [message?, hasMessage]

lemma find?_setContent (id : Id) (content : String) (ms : List Message) :
    (setContent id content ms).find? (·.id = id) =
      (ms.find? (·.id = id)).map ({ · with content }) := by
  induction ms with
  | nil => rfl
  | cons m ms ih => by_cases h : m.id = id <;> simp [setContent, h, ih]

lemma ids_setContent (id : Id) (content : String) (ms : List Message) :
    (setContent id content ms).map (·.id) = ms.map (·.id) := by
  induction ms with
  | nil => rfl
  | cons m ms ih => by_cases h : m.id = id <;> simp [setContent, h, ih]

lemma filter_setContent {id : Id} {ids : List Id} (hid : id ∈ ids) (content : String)
    (ms : List Message) :
    (setContent id content ms).filter (·.id ∉ ids) = ms.filter (·.id ∉ ids) := by
  induction ms with
  | nil => rfl
  | cons m ms ih =>
    by_cases h : m.id = id
    · simp [setContent, h, hid]
    · rw [setContent, if_neg h, List.filter_cons, List.filter_cons, ih]

lemma message?_updateMessage (c : Chat) (id : Id) (content : String) (now : Timestamp) :
    (c.updateMessage id content now).message? id = (c.message? id).map ({ · with content }) :=
  find?_setContent id content c.messages

/-- A change of a chat that does nothing to messages other than some, and adds none. -/
structure Spares (ids : List Id) (f : Chat → Chat) : Prop where
  id_eq : ∀ c, (f c).id = c.id
  hasMessage : ∀ c id, (f c).hasMessage id → c.hasMessage id
  filter_eq : ∀ c, (f c).messages.filter (·.id ∉ ids) = c.messages.filter (·.id ∉ ids)

lemma spares_updateMessage {id : Id} {ids : List Id} (hid : id ∈ ids) (content : String)
    (now : Timestamp) : Spares ids (·.updateMessage id content now) := by
  refine ⟨fun _ => rfl, fun c other h => ?_, fun c => filter_setContent hid content c.messages⟩
  rw [Chat.hasMessage, List.any_eq_true] at h ⊢
  obtain ⟨m, hm, h⟩ := h
  have hids := List.mem_map_of_mem (f := (·.id)) hm
  rw [updateMessage, ids_setContent] at hids
  obtain ⟨m', hm', hid'⟩ := List.mem_map.1 hids
  exact ⟨m', hm', hid' ▸ h⟩

lemma spares_deleteMessage {id : Id} {ids : List Id} (hid : id ∈ ids) (now : Timestamp) :
    Spares ids (·.deleteMessage id now) := by
  refine ⟨fun _ => rfl, fun c other h => ?_, fun c => ?_⟩
  · rw [Chat.hasMessage, List.any_eq_true] at h ⊢
    obtain ⟨m, hm, h⟩ := h
    exact ⟨m, (List.mem_filter.1 hm).1, h⟩
  · rw [deleteMessage, List.filter_filter]
    refine List.filter_congr fun m _ => ?_
    by_cases h : m.id = id <;> simp [h, hid]

lemma hasMessage_deleteMessage (c : Chat) (id : Id) (now : Timestamp) :
    (c.deleteMessage id now).hasMessage id = false := by
  simp [hasMessage, deleteMessage]

end Chat

namespace Ledger

lemma message?_eq_none_iff {l : Ledger} {id : Id} :
    l.message? id = none ↔ ∀ c ∈ l.chats, c.hasMessage id = false := by
  simp [message?, Chat.message?_eq_none_iff]

lemma content?_eq_none_iff {l : Ledger} {id : Id} :
    l.content? id = none ↔ ∀ c ∈ l.chats, c.hasMessage id = false := by
  rw [content?, Option.map_eq_none_iff, message?_eq_none_iff]

lemma chatOf?_eq_none_iff {l : Ledger} {id : Id} : l.chatOf? id = none ↔ l.content? id = none := by
  simp [chatOf?, content?_eq_none_iff]

/-- What is asked of a message that is not among some depends on the others only. -/
lemma content?_of_besides {l l' : Ledger} {ids : List Id} {id : Id} (hid : id ∉ ids)
    (h : l'.besides ids = l.besides ids) : l'.content? id = l.content? id := by
  have key (l : Ledger) :
      l.message? id = (l.besides ids).findSome? fun p => p.2.find? (·.id = id) := by
    rw [message?, besides, List.findSome?_map]
    congr 1
    funext c
    rw [Function.comp_apply, List.find?_filter, Chat.message?]
    congr 1
    funext m
    by_cases h : m.id = id <;> simp [h, hid]
  rw [content?, content?, key l, key l', h]

/-- A change of a ledger that does nothing to messages other than some, and adds none. -/
structure Spares (ids : List Id) (l l' : Ledger) : Prop where
  settings_eq : l'.settings = l.settings
  besides_eq : l'.besides ids = l.besides ids
  once : ∀ id, l.Once id → l'.Once id
  gone : ∀ id, l.content? id = none → l'.content? id = none

lemma Spares.refl (ids : List Id) (l : Ledger) : Spares ids l l :=
  ⟨rfl, rfl, fun _ h => h, fun _ h => h⟩

lemma Spares.trans {ids : List Id} {l l' l'' : Ledger} (h : Spares ids l l')
    (h' : Spares ids l' l'') : Spares ids l l'' :=
  ⟨h'.settings_eq.trans h.settings_eq, h'.besides_eq.trans h.besides_eq,
    fun id hid => h'.once id (h.once id hid), fun id hid => h'.gone id (h.gone id hid)⟩

lemma spares_modify {ids : List Id} {f : Chat → Chat} (hf : Chat.Spares ids f) (l : Ledger)
    (chat : Id) : Spares ids l (l.modify chat f) := by
  have hmem {c : Chat} (hc : c ∈ (l.modify chat f).chats) :
      ∃ c' ∈ l.chats, c.id = c'.id ∧ ∀ id, c.hasMessage id → c'.hasMessage id := by
    obtain ⟨c', hc', rfl⟩ := List.mem_map.1 hc
    refine ⟨c', hc', ?_⟩
    split_ifs
    · exact ⟨hf.id_eq c', hf.hasMessage c'⟩
    · exact ⟨rfl, fun _ h => h⟩
  refine ⟨rfl, ?_, ?_, ?_⟩
  · rw [besides, besides, modify, List.map_map]
    refine List.map_congr_left fun c _ => ?_
    rw [Function.comp_apply]
    split_ifs
    · rw [hf.id_eq, hf.filter_eq]
    · rfl
  · intro id h c₁ hc₁ c₂ hc₂ h₁ h₂
    obtain ⟨c₁', hc₁', hid₁, hhas₁⟩ := hmem hc₁
    obtain ⟨c₂', hc₂', hid₂, hhas₂⟩ := hmem hc₂
    rw [hid₁, hid₂]
    exact h c₁' hc₁' c₂' hc₂' (hhas₁ id h₁) (hhas₂ id h₂)
  · intro id h
    rw [content?_eq_none_iff] at h ⊢
    intro c hc
    obtain ⟨c', hc', _, hhas⟩ := hmem hc
    refine Bool.eq_false_iff.2 fun hid => ?_
    have hgone := h c' hc'
    rw [hhas id hid] at hgone
    cases hgone

lemma content?_update {l : Ledger} {id : Id} {chat : Chat} (h : l.chatOf? id = some chat)
    (content : String) (now : Timestamp) :
    (l.modify chat.id (·.updateMessage id content now)).content? id = some content := by
  obtain ⟨hchat, front, rest, hchats, hfront⟩ := List.find?_eq_some_iff_append.1 h
  let change (c : Chat) : Chat := if c.id = chat.id then c.updateMessage id content now else c
  have hskip : (front.map change).findSome? (·.message? id) = none := by
    rw [List.findSome?_eq_none_iff]
    intro c hc
    obtain ⟨c', hc', rfl⟩ := List.mem_map.1 hc
    have hnone : c'.message? id = none := by
      simpa [Chat.message?_eq_none_iff] using hfront c' hc'
    simp only [change]
    split_ifs
    · rw [Chat.message?_updateMessage, hnone]
      rfl
    · exact hnone
  obtain ⟨m, hm⟩ : ∃ m, chat.message? id = some m := by
    rw [← Option.ne_none_iff_exists', ne_eq, Chat.message?_eq_none_iff]
    simpa using hchat
  have hchange : (change chat).message? id = some { m with content } := by
    simp only [change, if_pos]
    rw [Chat.message?_updateMessage, hm]
    rfl
  rw [content?, message?, show (l.modify chat.id _).chats = l.chats.map change from rfl, hchats,
    List.map_append, List.map_cons, List.findSome?_append, hskip, List.findSome?_cons, hchange]
  rfl

lemma content?_delete {l : Ledger} {id : Id} {chat : Chat} (h : l.chatOf? id = some chat)
    (honce : l.Once id) (now : Timestamp) :
    (l.modify chat.id (·.deleteMessage id now)).content? id = none := by
  rw [content?_eq_none_iff]
  intro c hc
  obtain ⟨c', hc', rfl⟩ := List.mem_map.1 hc
  split_ifs with hid
  · exact c'.hasMessage_deleteMessage id now
  · have hchat := List.find?_some h
    exact Bool.eq_false_iff.2 fun hhas =>
      hid (honce c' hc' chat (List.mem_of_find?_eq_some h) hhas hchat)

end Ledger

/-- The message that a call changes. -/
def ChatCall.messageId? : ChatCall → Option Id
  | .updateMessage id _ => some id
  | .deleteMessage id => some id
  | _ => none

namespace ChatVault

/-- A change of a vault that does nothing to messages other than some, and adds none. -/
structure Spares (ids : List Id) (v v' : ChatVault) : Prop where
  memory : v.memory.Spares ids v'.memory
  writable : v.slot.Writable → v'.slot.Writable
  written : v.slot.text? = some v.memory.text → v'.slot.text? = some v'.memory.text

lemma Spares.refl (ids : List Id) (v : ChatVault) : Spares ids v v :=
  ⟨.refl ids v.memory, fun h => h, fun h => h⟩

lemma Spares.trans {ids : List Id} {v v' v'' : ChatVault} (h : Spares ids v v')
    (h' : Spares ids v' v'') : Spares ids v v'' :=
  ⟨h.memory.trans h'.memory, fun hw => h'.writable (h.writable hw),
    fun hw => h'.written (h.written hw)⟩

/-- How a change of a message comes out: it was made and written down, or there was nothing to
change, or it could not be written down. -/
inductive Changed (v : ChatVault) (id : Id) (f : Chat → Chat) :
    Except StoreError Bool → ChatVault → Prop
  | made {chat : Chat} {slot : Slot} (hchat : v.memory.chatOf? id = some chat)
    (hslot : v.slot.write (v.memory.modify chat.id f).text = .ok slot) :
    Changed v id f (.ok true) ⟨v.memory.modify chat.id f, slot⟩
  | absent (hgone : v.memory.content? id = none) : Changed v id f (.ok false) v
  | refused (e : StoreError) (hslot : ¬v.slot.Writable) : Changed v id f (.error e) v

lemma changed_carryOut (v : ChatVault) (id : Id) (f : Chat → Chat) :
    Changed v id f (v.carryOut Ledger.text (.ok (v.memory.changeMessage id f))).1
      (v.carryOut Ledger.text (.ok (v.memory.changeMessage id f))).2 := by
  unfold Ledger.changeMessage
  cases hchat : v.memory.chatOf? id with
  | none => exact .absent (Ledger.chatOf?_eq_none_iff.1 hchat)
  | some chat =>
    cases hslot : v.slot.write (v.memory.modify chat.id f).text with
    | error e =>
      simp only [Vault.carryOut, Vault.save, hslot, Except.map]
      exact .refused e (Slot.write_error hslot)
    | ok slot =>
      simp only [Vault.carryOut, Vault.save, hslot, Except.map]
      exact .made hchat hslot

lemma Changed.spares {v v' : ChatVault} {id : Id} {f : Chat → Chat} {ids : List Id}
    {reply : Except StoreError Bool} (h : Changed v id f reply v') (hf : Chat.Spares ids f) :
    Spares ids v v' := by
  cases h with
  | made hchat hslot =>
    exact ⟨Ledger.spares_modify hf .., fun _ => (Slot.write_ok hslot).2,
      fun _ => (Slot.write_ok hslot).1⟩
  | absent => exact .refl ids v
  | refused => exact .refl ids v

lemma changed_update (v : ChatVault) (stamp : Stamp) (id : Id) (content : String) :
    Changed v id (·.updateMessage id content stamp.time)
      (v.perform stamp (.updateMessage id content)).1
      (v.perform stamp (.updateMessage id content)).2 :=
  changed_carryOut v id _

lemma changed_delete (v : ChatVault) (stamp : Stamp) (id : Id) :
    Changed v id (·.deleteMessage id stamp.time) (v.perform stamp (.deleteMessage id)).1
      (v.perform stamp (.deleteMessage id)).2 :=
  changed_carryOut v id _

/-- A call that changes a message does nothing to other messages. -/
theorem perform_spares {c : ChatCall} {id : Id} {ids : List Id} (hc : c.messageId? = some id)
    (hid : id ∈ ids) (v : ChatVault) (stamp : Stamp) : Spares ids v (v.perform stamp c).2 := by
  cases c with
  | updateMessage other content =>
    obtain rfl := Option.some.inj hc
    exact (changed_update v stamp other content).spares (Chat.spares_updateMessage hid ..)
  | deleteMessage other =>
    obtain rfl := Option.some.inj hc
    exact (changed_delete v stamp other).spares (Chat.spares_deleteMessage hid ..)
  | _ => cases hc

/-- What a write of a message did, by the answer to it. -/
theorem perform_update {v v' : ChatVault} {stamp : Stamp} {id : Id} {content : String}
    {reply : Except StoreError Bool}
    (h : v.perform stamp (.updateMessage id content) = (reply, v')) :
    (reply = .ok true → v'.memory.content? id = some content ∧
        v'.slot.text? = some v'.memory.text) ∧
      (reply = .ok false → v'.memory.content? id = none) := by
  have hchanged := changed_update v stamp id content
  rw [h] at hchanged
  cases hchanged with
  | made hchat hslot =>
    exact ⟨fun _ => ⟨Ledger.content?_update hchat .., (Slot.write_ok hslot).1⟩, nofun⟩
  | absent hgone => exact ⟨nofun, fun _ => hgone⟩
  | refused => exact ⟨nofun, nofun⟩

/-- A message that is in one chat at most is gone once it was deleted. -/
theorem perform_delete {v v' : ChatVault} {stamp : Stamp} {id : Id}
    {reply : Except StoreError Bool} (h : v.perform stamp (.deleteMessage id) = (reply, v'))
    (honce : v.memory.Once id) (hwritable : v.slot.Writable) : v'.memory.content? id = none := by
  have hchanged := changed_delete v stamp id
  rw [h] at hchanged
  cases hchanged with
  | made hchat => exact Ledger.content?_delete hchat honce stamp.time
  | absent hgone => exact hgone
  | refused _ hslot => exact absurd hwritable hslot

end ChatVault

end Parley
