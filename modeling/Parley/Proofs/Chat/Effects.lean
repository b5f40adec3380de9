import Mathlib.Data.List.Forall2
import Mathlib.Data.List.Perm.Basic
import Parley.Proofs.Chat.Rounds
import Parley.Proofs.Store.Vault

/-!
# What each call does

Messages are looked for in all chats, by their identifier alone. Where no identifier occurs twice
(`Ledger.Distinct`), a call that succeeds does what `Ledger.Does` says and nothing else. A call that
fails does nothing, and is either refused (`Ledger.Refuses`) or cannot be written down.
-/

namespace Parley

/-- What is shown of a chat in a list: which one it is, and what was said last in it, if anything
was. -/
structure Chat.Shows (c : Chat) (s : ChatSummary) : Prop where
  id : s.id = c.id
  name : s.name = c.name
  createdAt : s.createdAt = c.createdAt
  empty : c.messages = [] → s.lastMessage = none
  last : ∀ front m, c.messages = front ++ [m] → s.lastMessage = some ⟨m.content, m.sender⟩

lemma Chat.shows_summary (c : Chat) : c.Shows c.summary where
  id := rfl
  name := rfl
  createdAt := rfl
  empty h := by rw [summary, h, List.getLast?_nil, Option.map_none]
  last front m h := by rw [summary, h, List.getLast?_concat, Option.map_some]

namespace Ledger

/-- No two chats have one identifier, and no two messages, wherever they are. -/
structure Distinct (l : Ledger) : Prop where
  chats : l.ids.Nodup
  messages : ∀ c ∈ l.chats, (c.messages.map (·.id)).Nodup
  once : ∀ id, l.Once id

/-- A message is in one of the chats. -/
def Holds (l : Ledger) (id : Id) : Prop := ∃ c ∈ l.chats, c.hasMessage id

/-- What a call does that succeeds, by its reply. -/
def Does (l : Ledger) (stamp : Stamp) : (c : ChatCall) → c.Reply → Ledger → Prop
  | .create chat, made, l' =>
    chat.id ∉ l.ids ∧ made = chat ∧ l' = { l with chats := l.chats ++ [chat] }
  | .get id, found, l' => (∀ c, found = some c ↔ c ∈ l.chats ∧ c.id = id) ∧ l' = l
  | .list, shown, l' => (∃ cs : List Chat, cs.Perm l.chats ∧
      cs.Pairwise (fun c d => ¬c.createdAt.isBefore d.createdAt) ∧
      List.Forall₂ Chat.Shows cs shown) ∧
    l' = l
  | .delete id, found, l' =>
    (found ↔ id ∈ l.ids) ∧ l' = { l with chats := l.chats.filter (·.id ≠ id) }
  | .addMessage chatId sender content, m, l' =>
    chatId ∈ l.ids ∧ m = ⟨stamp.id, chatId, sender, content, stamp.time⟩ ∧
      l' = { l with
        chats := l.chats.map fun c =>
          if c.id = chatId then
            { c with messages := c.messages ++ [m], updatedAt := stamp.time }
          else c }
  | .updateMessage id content, found, l' =>
    (found ↔ l.Holds id) ∧
      l' = { l with
        chats := l.chats.map fun c =>
          if c.hasMessage id then
            { c with
              messages := c.messages.map fun m => if m.id = id then { m with content } else m
              updatedAt := stamp.time }
          else c }
  | .deleteMessage id, found, l' =>
    (found ↔ l.Holds id) ∧
      l' = { l with
        chats := l.chats.map fun c =>
          if c.hasMessage id then
            { c with messages := c.messages.filter (·.id ≠ id), updatedAt := stamp.time }
          else c }
  | .settings, s, l' => s = l.settings ∧ l' = l
  | .putSettings settings, s, l' => s = settings ∧ l' = { l with settings }

variable {l l' : Ledger} {id : Id} {c : Chat} {stamp : Stamp}

lemma holds_iff : l.Holds id ↔ (l.chatOf? id).isSome := by
  rw [Holds, chatOf?, List.find?_isSome]

namespace Distinct

lemma eq (h : l.Distinct) {c d : Chat} (hc : c ∈ l.chats) (hd : d ∈ l.chats) (hid : c.id = d.id) :
    c = d :=
  List.inj_on_of_nodup_map h.chats hc hd hid

lemma find?_iff (h : l.Distinct) : l.find? id = some c ↔ c ∈ l.chats ∧ c.id = id := by
  constructor
  · exact fun hfind => ⟨List.mem_of_find?_eq_some hfind, find?_id hfind⟩
  · rintro ⟨hc, rfl⟩
    have hsome : (l.find? c.id).isSome := List.find?_isSome.2 ⟨c, hc, decide_eq_true rfl⟩
    obtain ⟨d, hd⟩ := Option.isSome_iff_exists.1 hsome
    rw [hd, h.eq (List.mem_of_find?_eq_some hd) hc (find?_id hd)]

/-- The chat that is changed for the sake of a message is the one that has it. -/
lemma changeMessage (h : l.Distinct) (id : Id) (f : Chat → Chat) :
    ((l.changeMessage id f).1 ↔ l.Holds id) ∧ (l.changeMessage id f).2.getD l =
      { l with chats := l.chats.map fun c => if c.hasMessage id then f c else c } := by
  rw [holds_iff, Ledger.changeMessage]
  cases hchat : l.chatOf? id with
  | none =>
    refine ⟨by simp, ?_⟩
    have hnone := List.find?_eq_none.1 hchat
    have hsame : l.chats.map (fun c => if c.hasMessage id then f c else c) = l.chats :=
      (List.map_congr_left fun c hc => if_neg (hnone c hc)).trans (List.map_id _)
    exact congrArg (fun chats => { l with chats }) hsame.symm
  | some chat =>
    refine ⟨by simp, ?_⟩
    have hmem := List.mem_of_find?_eq_some hchat
    have hhas := List.find?_some hchat
    have hsame : l.chats.map (fun c => if c.id = chat.id then f c else c) =
        l.chats.map fun c => if c.hasMessage id then f c else c := by
      refine List.map_congr_left fun c hc => ?_
      by_cases hid : c.hasMessage id
      · rw [if_pos hid, if_pos (h.once id c hc chat hmem hid hhas)]
      · rw [if_neg hid, if_neg fun heq => hid (h.eq hc hmem heq ▸ hhas)]
    exact congrArg (fun chats => { l with chats }) hsame

end Distinct

lemma summaries_sorted (l : Ledger) : ∃ cs : List Chat, cs.Perm l.chats ∧
    cs.Pairwise (fun c d => ¬c.createdAt.isBefore d.createdAt) ∧
      List.Forall₂ Chat.Shows cs l.summaries := by
  have hshown (cs : List Chat) : List.Forall₂ Chat.Shows cs (cs.map (·.summary)) :=
    List.forall₂_map_right_iff.2 (List.forall₂_same.2 fun c _ => c.shows_summary)
  refine ⟨_, List.mergeSort_perm _ _, ?_, hshown _⟩
  refine (List.pairwise_mergeSort (fun a b c hab hbc => ?_) (fun a b => ?_) l.chats).imp
    fun {c d} hcd => ?_
  · simp only [Timestamp.isBefore, Bool.not_eq_true', Bool.or_eq_false_iff, Bool.and_eq_false_iff,
      decide_eq_false_iff_not] at hab hbc ⊢
    omega
  · simp only [Timestamp.isBefore, Bool.or_eq_true, Bool.not_eq_true', Bool.or_eq_false_iff,
      Bool.and_eq_false_iff, decide_eq_false_iff_not]
    omega
  · simpa using hcd

/-- A decision that is not an error is what the call does. -/
theorem Distinct.decide (h : l.Distinct) {call : ChatCall} {reply : call.Reply}
    {next : Option Ledger} (hdecide : l.decide stamp call = .ok (reply, next)) :
    l.Does stamp call reply (next.getD l) := by
  cases call with
  | create chat =>
    simp only [Ledger.decide] at hdecide
    split_ifs at hdecide with hthere
    cases hdecide
    exact ⟨mt contains_iff.2 hthere, rfl, rfl⟩
  | get id =>
    cases hdecide
    exact ⟨fun c => h.find?_iff, rfl⟩
  | list =>
    cases hdecide
    exact ⟨summaries_sorted l, rfl⟩
  | delete id =>
    simp only [Ledger.decide] at hdecide
    split_ifs at hdecide with hthere
    · cases hdecide
      exact ⟨by simpa using contains_iff.1 hthere, rfl⟩
    · cases hdecide
      refine ⟨by simpa using mt contains_iff.2 hthere, ?_⟩
      have hrest : l.chats.filter (·.id ≠ id) = l.chats := List.filter_eq_self.2 fun c hc =>
        decide_eq_true (contains_eq_false_iff.1 (Bool.eq_false_iff.2 hthere) c hc)
      rw [hrest, Option.getD_none]
  | addMessage chatId sender content =>
    simp only [Ledger.decide] at hdecide
    split_ifs at hdecide with hthere
    cases hdecide
    exact ⟨contains_iff.1 hthere, rfl, rfl⟩
  | updateMessage id content =>
    obtain ⟨hreply, hnext⟩ := h.changeMessage id (·.updateMessage id content stamp.time)
    rw [Except.ok.inj hdecide] at hreply hnext
    refine ⟨hreply, hnext.trans ?_⟩
    have hsame : ∀ c ∈ l.chats, c.updateMessage id content stamp.time =
        { c with
          messages := c.messages.map fun m => if m.id = id then { m with content } else m
          updatedAt := stamp.time } := by
      intro c hc
      exact congrArg (fun messages => { c with messages, updatedAt := stamp.time })
        (Chat.setContent_eq_map (h.messages c hc))
    have hchats := List.map_congr_left fun c hc =>
      congrArg (fun d => if c.hasMessage id then d else c) (hsame c hc)
    exact congrArg (fun chats => { l with chats }) hchats
  | deleteMessage id =>
    obtain ⟨hreply, hnext⟩ := h.changeMessage id (·.deleteMessage id stamp.time)
    rw [Except.ok.inj hdecide] at hreply hnext
    exact ⟨hreply, hnext⟩
  | settings =>
    cases hdecide
    exact ⟨rfl, rfl⟩
  | putSettings settings =>
    cases hdecide
    exact ⟨rfl, rfl⟩

/-- The calls that are refused for what they ask: a chat with an identifier that is taken, and a
message to a chat that is not there. -/
inductive Refuses (l : Ledger) : ChatCall → StoreError → Prop
  | taken {chat : Chat} (h : chat.id ∈ l.ids) : Refuses l (.create chat)
      (.invalidInput s!"Chat with ID {chat.id.text} already exists")
  | unknown {chatId : Id} {sender : Sender} {content : String} (h : chatId ∉ l.ids) :
    Refuses l (.addMessage chatId sender content) (.chatNotFound chatId.text)

lemma decide_error_iff {call : ChatCall} {e : StoreError} :
    l.decide stamp call = .error e ↔ l.Refuses call e := by
  constructor
  · intro h
    cases call with
    | create chat =>
      simp only [decide] at h
      split_ifs at h with hthere
      cases h
      exact .taken (contains_iff.1 hthere)
    | delete id =>
      simp only [decide] at h
      split_ifs at h
    | addMessage chatId sender content =>
      simp only [decide] at h
      split_ifs at h with hthere
      cases h
      exact .unknown (mt contains_iff.2 hthere)
    | _ => cases h
  · rintro (hthere | hthere)
    · exact if_pos (contains_iff.2 hthere)
    · exact if_neg (mt contains_iff.1 hthere)

end Ledger

namespace ChatVault

variable {v v' : ChatVault} {stamp : Stamp} {call : ChatCall}

theorem perform_does {reply : call.Reply} (hdistinct : v.memory.Distinct)
    (h : v.perform stamp call = (.ok reply, v')) : v.memory.Does stamp call reply v'.memory := by
  cases Vault.carryOut_carriedOut h with
  | answered hdecide => exact hdistinct.decide hdecide
  | saved hdecide => exact hdistinct.decide hdecide

theorem perform_fails {e : StoreError} (h : v.perform stamp call = (.error e, v')) :
    v' = v ∧ (v.memory.Refuses call e ∨ ¬v.slot.Writable) := by
  cases Vault.carryOut_carriedOut h with
  | refused hdecide => exact ⟨rfl, .inl (Ledger.decide_error_iff.1 hdecide)⟩
  | unsaved _ hslot => exact ⟨rfl, .inr (Slot.write_error hslot)⟩

lemma perform_refuses {e : StoreError} (h : v.memory.Refuses call e) :
    v.perform stamp call = (.error e, v) := by
  rw [perform, Ledger.decide_error_iff.2 h]
  rfl

end ChatVault

end Parley
