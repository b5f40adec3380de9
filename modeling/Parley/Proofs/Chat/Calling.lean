import Parley.Proofs.Chat.Desk

/-!
# Calls at a desk

Calls come to a desk one at a time, and any of them may fail (`Desk.Called`). One that succeeds
changes the ledger by one event or by none (`Desk.Changes`), and the desk is kept in good order
(`Desk.Kept.after`). It may come out in the same way at another desk (`Desk.Called.again`).
-/

namespace Parley

open ChatEvent (left thread carry left_append left_untouched left_id)

/-- What a store's replies say about the calls that they are for. -/
def ChatCall.Honest : (c : ChatCall) → c.Reply → Prop
  | .create chat, made => made = chat
  | .get id, found => ∀ chat, found = some chat → chat.id = id
  | .addMessage chatId sender content, m =>
    m.chatId = chatId ∧ m.sender = sender ∧ m.content = content
  | _, _ => True

/-- A new chat has no messages, and the settings are only read. -/
def ChatCall.Modest : ChatCall → Prop
  | .create chat => chat.messages = []
  | .putSettings _ => False
  | _ => True

namespace Desk

/-- A call fails for whatever reason, or the store does what it can, over any slot. -/
inductive Called (d : Desk) (c : ChatCall) : Except StoreError c.Reply → Desk → Prop
  | failed (e : StoreError) : Called d c (.error e) d
  | performed {slot slot' : Slot} {stamp : Stamp} {reply : Except StoreError c.Reply} {l : Ledger}
    (h : ChatVault.perform ⟨d.ledger, slot⟩ stamp c = (reply, ⟨l, slot'⟩))
    (hadmits : ∀ e ∈ c.event? reply, d.Admits e) : Called d c reply (d.after l (c.event? reply))

variable {d d' : Desk} {l₀ l : Ledger} {c : ChatCall} {e : Option ChatEvent} {id : Id}
  {m m' : Message}

/-- What a call that succeeded did to the ledger, by the event that it was. -/
structure Changes (d : Desk) (l : Ledger) (e : Option ChatEvent) : Prop where
  distinct : l.Distinct
  admits : ∀ x ∈ e, d.Admits x
  touched : ∀ x ∈ e, ∀ id, x.touched? = some id → d.ledger.Holds id
  opened : ∀ chat, e = some (.opened chat) → chat.messages = [] ∧ chat ∈ l.chats
  added : ∀ m, e = some (.added m) → m.chatId ∈ d.ledger.ids
  left : ∀ id chat, d.ledger.find? id = some chat → .closed id ∉ e.toList → ∃ now,
    l.find? id = some { chat with messages := carry id e.toList chat.messages, updatedAt := now }
  known : ∀ chat ∈ l.chats, e = some (.opened chat) ∨
    (∃ old ∈ d.ledger.chats, old.id = chat.id) ∧ .closed chat.id ∉ e.toList

lemma does_touched {stamp : Stamp} {reply : c.Reply} (h : d.ledger.Does stamp c reply l)
    {x : ChatEvent} (hx : c.event? (.ok reply) = some x) (hid : x.touched? = some id) :
    d.ledger.Holds id := by
  cases c with
  | updateMessage other content =>
    cases reply <;> cases hx
    cases hid
    exact h.1.1 rfl
  | deleteMessage other =>
    cases reply <;> cases hx
    cases hid
    exact h.1.1 rfl
  | delete other =>
    cases reply <;> cases hx
    cases hid
  | create chat =>
    cases hx
    cases hid
  | addMessage chatId sender content =>
    cases hx
    cases hid
  | _ => cases hx

lemma does_opened {stamp : Stamp} {reply : c.Reply} (h : d.ledger.Does stamp c reply l)
    {chat : Chat} (hx : c.event? (.ok reply) = some (.opened chat)) : c = .create chat := by
  cases c with
  | create made =>
    cases hx
    rw [h.2.1]
  | updateMessage => cases reply <;> cases hx
  | deleteMessage => cases reply <;> cases hx
  | delete => cases reply <;> cases hx
  | _ => cases hx

lemma does_added {stamp : Stamp} {reply : c.Reply} (h : d.ledger.Does stamp c reply l)
    (hx : c.event? (.ok reply) = some (.added m)) : m.chatId ∈ d.ledger.ids := by
  cases c with
  | addMessage chatId sender content =>
    cases hx
    exact h.2.1 ▸ h.1
  | updateMessage => cases reply <;> cases hx
  | deleteMessage => cases reply <;> cases hx
  | delete => cases reply <;> cases hx
  | _ => cases hx

lemma event?_error (c : ChatCall) (e : StoreError) : c.event? (.error e) = none := by
  cases c <;> rfl

lemma Kept.changes (h : d.Kept l₀) {stamp : Stamp} {reply : c.Reply} (hmodest : c.Modest)
    (hadmits : ∀ x ∈ c.event? (.ok reply), d.Admits x)
    (hdoes : d.ledger.Does stamp c reply l) : d.Changes l (c.event? (.ok reply)) where
  distinct := by
    apply hdoes.distinct h.distinct
    cases c with
    | create chat =>
      rw [ChatCall.Fresh, show chat.messages = [] from hmodest]
      exact ⟨List.nodup_nil, List.forall_mem_nil _⟩
    | addMessage chatId sender content =>
      intro hholds
      have hid : Message.id reply = stamp.id := congrArg Message.id hdoes.2.1
      exact hadmits _ rfl (hid ▸ h.holds_used hholds)
    | _ => exact trivial
  admits := hadmits
  touched x hx id hid := does_touched hdoes hx hid
  opened chat hx := by
    obtain rfl := does_opened hdoes hx
    obtain ⟨-, -, rfl⟩ := hdoes
    exact ⟨hmodest, List.mem_append_right _ (.head _)⟩
  added m hx := does_added hdoes hx
  left id chat hfind hopen := hdoes.find?_left hfind hopen
  known chat hchat := hdoes.known hchat

namespace Kept

variable {chat : Chat}

lemma left_after (hkept : d.Kept l₀) (h : d.Changes l e) (hm : m.id ∉ d.used) :
    left (d.after l e).events m = some m := by
  rw [after, left_append, hkept.unused m hm]
  apply left_untouched
  intro x hx hid
  exact hm (hkept.holds_used (h.touched x (Option.mem_toList.1 hx) m.id hid))

/-- A chat that is not closed has what the event made of its messages. -/
lemma messages_after (hkept : d.Kept l₀) (h : d.Changes l e) {old : Chat}
    (hold : old ∈ d.ledger.chats) (hchat : chat ∈ l.chats) (hid : old.id = chat.id)
    (hopen : .closed chat.id ∉ e.toList) :
    chat.messages = carry chat.id e.toList old.messages := by
  have hfind : d.ledger.find? chat.id = some old := hkept.distinct.find?_iff.2 ⟨hold, hid⟩
  obtain ⟨now, hnow⟩ := h.left _ _ hfind hopen
  have hsame : l.find? chat.id = some chat := h.distinct.find?_iff.2 ⟨hchat, rfl⟩
  rw [hsame] at hnow
  exact congrArg Chat.messages (Option.some.inj hnow)

/-- The messages that an event adds to a chat, as they are after it. -/
lemma posted_thread (hkept : d.Kept l₀) (h : d.Changes l e) :
    ((e.bind (·.added?)).toList.filter (·.chatId = id)).filterMap (left (d.after l e).events) =
      thread id e.toList := by
  rcases e with _ | _ | _ | m | _ | _
  case some.added =>
    have hleft : left (d.after l (some (.added m))).events m = some m :=
      hkept.left_after h (h.admits _ rfl)
    by_cases hid : m.chatId = id
    · simp [ChatEvent.added?, hid, hleft, thread, left]
    · simp [ChatEvent.added?, hid, thread]
  all_goals rfl

lemma ids_after (hkept : d.Kept l₀) (h : d.Changes l e) (hid : id ∈ d.ledger.ids)
    (hopen : .closed id ∉ e.toList) : id ∈ l.ids := by
  obtain ⟨c, hc, rfl⟩ := List.mem_map.1 hid
  obtain ⟨now, hnow⟩ := h.left _ _ (hkept.distinct.find?_iff.2 ⟨hc, rfl⟩) hopen
  exact List.mem_map.2 ⟨_, List.mem_of_find?_eq_some hnow, rfl⟩

/-- A chat stays as long as there is a message in it. -/
lemma there_after (hkept : d.Kept l₀) (h : d.Changes l e) (hm : m ∈ d.posted)
    (hleft : left d.events m = some m') : m.chatId ∈ l.ids := by
  obtain ⟨c, hfind, hmem⟩ := hkept.found hm hleft
  obtain ⟨hc, hid⟩ := hkept.distinct.find?_iff.1 hfind
  refine hkept.ids_after h (List.mem_map.2 ⟨c, hc, hid⟩) fun hclosed => ?_
  rw [h.admits _ (Option.mem_toList.1 hclosed) c hc hid] at hmem
  cases hmem

/-- What is known of a desk stays so in every call that succeeds. -/
lemma after (hkept : d.Kept l₀) (h : d.Changes l e) : (d.after l e).Kept l₀ where
  distinct := h.distinct
  firsts := hkept.firsts
  ids id hid := by
    rw [used_after]
    obtain ⟨chat, hchat, rfl⟩ := List.mem_map.1 hid
    obtain rfl | ⟨⟨old, hold, hsame⟩, -⟩ := h.known chat hchat
    · exact List.mem_append_right _ (.head _)
    · exact List.mem_append_left _ (hkept.ids _ (List.mem_map.2 ⟨old, hold, hsame⟩))
  unused m hm := by
    rw [used_after, List.mem_append, not_or] at hm
    exact hkept.left_after h hm.1
  once := by
    rw [posted_after, List.map_append]
    rcases e with _ | _ | _ | m | _ | _
    case some.added =>
      have hnew : m.id ∉ d.posted.map (·.id) := by
        intro hmem
        obtain ⟨m', hm', hid⟩ := List.mem_map.1 hmem
        exact h.admits _ rfl (hid ▸ posted_used hm')
      exact List.concat_eq_append ▸ hkept.once.concat hnew
    all_goals exact (List.append_nil _).symm ▸ hkept.once
  new m hm := by
    obtain hm | hm := mem_posted_after.1 hm
    · exact hkept.new m hm
    · exact fun hfirst => h.admits _ hm (List.mem_append_left _ hfirst)
  chats m hm := by
    rw [used_after]
    apply List.mem_append_left
    obtain hm | hm := mem_posted_after.1 hm
    · exact hkept.chats m hm
    · exact hkept.ids _ (h.added m hm)
  there m hm hleft := by
    obtain hm | hm := mem_posted_after.1 hm
    · cases hbefore : left d.events m with
      | none =>
        rw [Desk.after, left_append, hbefore] at hleft
        exact absurd rfl hleft
      | some m' => exact hkept.there_after h hm hbefore
    · exact hkept.ids_after h (h.added m hm) (by simp [hm])
  messages chat hchat := by
    rw [posted_after, List.filter_append]
    obtain rfl | ⟨⟨old, hold, hid⟩, hopen⟩ := h.known chat hchat
    · have hnew : chat.id ∉ d.used := h.admits _ rfl
      have hnone : d.posted.filter (·.chatId = chat.id) = [] :=
        List.filter_eq_nil_iff.2 fun m hm hid => hnew (of_decide_eq_true hid ▸ hkept.chats m hm)
      rw [(h.opened chat rfl).1, hkept.messagesOf_new hnew, hnone]
      rfl
    · have hleft : left (d.after l e).events = fun m => (left d.events m).bind (left e.toList) :=
        funext fun m => left_append
      rw [← List.append_assoc, List.filterMap_append, hkept.posted_thread h,
        hkept.messages_after h hold hchat hid hopen, carry, hkept.messages old hold, hid, hleft,
        List.filterMap_filterMap]

end Kept

lemma changes_none (h : d.Kept l₀) : d.Changes d.ledger none where
  distinct := h.distinct
  admits _ hx := by cases hx
  touched _ hx := by cases hx
  opened _ hx := by cases hx
  added _ hx := by cases hx
  left id chat hfind _ := ⟨chat.updatedAt, by rw [Option.toList_none, ChatEvent.carry_nil, hfind]⟩
  known chat hchat := .inr ⟨⟨chat, hchat, rfl⟩, List.not_mem_nil⟩

/-- A call that fails leaves the desk as it is. -/
lemma Called.failure {e : StoreError} (h : d.Called c (.error e) d') : d' = d := by
  cases h with
  | failed => rfl
  | performed hperform =>
    obtain ⟨hsame, -⟩ := ChatVault.perform_fails hperform
    cases hsame
    rw [event?_error, after_none]

/-- A call that succeeds does what it is to do. -/
lemma Called.does {reply : c.Reply} (h : d.Called c (.ok reply) d') (hkept : d.Kept l₀) :
    ∃ stamp, d.ledger.Does stamp c reply d'.ledger := by
  cases h with
  | @performed slot slot' stamp _ l hperform hadmits =>
    exact ⟨stamp, ChatVault.perform_does (v := ⟨d.ledger, slot⟩) hkept.distinct hperform⟩

lemma Called.admits {reply : Except StoreError c.Reply} (h : d.Called c reply d') :
    ∀ e ∈ c.event? reply, d.Admits e := by
  cases h with
  | failed e =>
    intro x hx
    rw [event?_error] at hx
    cases hx
  | performed _ hadmits => exact hadmits

/-- However a call comes out. -/
theorem Called.changes {reply : Except StoreError c.Reply} (h : d.Called c reply d')
    (hkept : d.Kept l₀) (hmodest : c.Modest) :
    ∃ l, d.Changes l (c.event? reply) ∧ d' = d.after l (c.event? reply) := by
  cases reply with
  | error e =>
    rw [event?_error, h.failure]
    exact ⟨d.ledger, changes_none hkept, (after_none d).symm⟩
  | ok reply =>
    obtain ⟨stamp, hdoes⟩ := h.does hkept
    refine ⟨d'.ledger, hkept.changes hmodest h.admits hdoes, ?_⟩
    cases h with
    | performed => rfl

lemma Called.honest {reply : c.Reply} (h : d.Called c (.ok reply) d') (hkept : d.Kept l₀) :
    c.Honest reply := by
  obtain ⟨stamp, hdoes⟩ := h.does hkept
  cases c with
  | create chat => exact hdoes.2.1
  | get id => exact fun chat hfound => ((hdoes.1 chat).1 hfound).2
  | addMessage chatId sender content =>
    obtain ⟨-, rfl, -⟩ := hdoes
    exact ⟨rfl, rfl, rfl⟩
  | _ => exact trivial

lemma Called.settings {reply : Except StoreError c.Reply} (h : d.Called c reply d')
    (hkept : d.Kept l₀) (hmodest : c.Modest) :
    d'.ledger.settings = d.ledger.settings := by
  cases reply with
  | error e => rw [h.failure]
  | ok reply =>
    obtain ⟨stamp, hdoes⟩ := h.does hkept
    cases c with
    | putSettings => exact hmodest.elim
    | create => rw [hdoes.2.2]
    | addMessage => rw [hdoes.2.2]
    | _ => rw [hdoes.2]

/-- Whatever the ledger says is replied, if there is a place to write it down. -/
lemma Called.ofDecide (stamp : Stamp) {reply : c.Reply} {next : Option Ledger}
    (h : d.ledger.decide stamp c = .ok (reply, next))
    (hadmits : ∀ e ∈ c.event? (.ok reply), d.Admits e) :
    d.Called c (.ok reply) (d.after (next.getD d.ledger) (c.event? (.ok reply))) := by
  cases next with
  | none =>
    have hperform : ChatVault.perform ⟨d.ledger, {}⟩ stamp c = (.ok reply, ⟨d.ledger, {}⟩) := by
      rw [ChatVault.perform, h]
      rfl
    exact .performed hperform hadmits
  | some next =>
    have hperform : ChatVault.perform ⟨d.ledger, {}⟩ stamp c =
        (.ok reply, ⟨next, { entry := .file next.text }⟩) := by
      rw [ChatVault.perform, h]
      rfl
    exact .performed hperform hadmits

/-- What has to be so for a call to come out at a desk as it did at another. -/
def Repeats (d₁ d : Desk) : ChatCall → Prop
  | .create _ => True
  | .get id => d₁.ledger.find? id = d.ledger.find? id
  | .delete id => (id ∈ d₁.ledger.ids ↔ id ∈ d.ledger.ids) ∧ d₁.ledger.messagesOf id = []
  | .addMessage chatId _ _ => chatId ∈ d₁.ledger.ids
  | .updateMessage id _ => d₁.ledger.Holds id ↔ d.ledger.Holds id
  | .deleteMessage id => d₁.ledger.Holds id ↔ d.ledger.Holds id
  | .settings => d₁.ledger.settings = d.ledger.settings
  | .list => False
  | .putSettings _ => False

theorem Called.again {d₁ : Desk} {l₁ : Ledger} {reply : c.Reply} (h : d.Called c (.ok reply) d')
    (hkept : d.Kept l₀) (hkept₁ : d₁.Kept l₁) (hused : d₁.used ⊆ d.used) (hc : d₁.Repeats d c) :
    ∃ l, d₁.Called c (.ok reply) (d₁.after l (c.event? (.ok reply))) := by
  have hadmits := h.admits
  obtain ⟨stamp, hdoes⟩ := h.does hkept
  have hchange (id : Id) (f : Chat → Chat) (found : Bool) (hfound : found ↔ d.ledger.Holds id)
      (hid : d₁.ledger.Holds id ↔ d.ledger.Holds id) :
      d₁.ledger.changeMessage id f = (found, (d₁.ledger.changeMessage id f).2) := by
    obtain ⟨hthere, -⟩ := hkept₁.distinct.changeMessage id f
    exact Prod.ext (Bool.eq_iff_iff.2 (hthere.trans (hid.trans hfound.symm))) rfl
  cases c with
  | create chat =>
    have hmade : chat = reply := hdoes.2.1.symm
    subst hmade
    have hnew : chat.id ∉ d.used := hadmits _ rfl
    have hnone : chat.id ∉ d₁.ledger.ids := fun hid => hnew (hused (hkept₁.ids _ hid))
    have hdecide : d₁.ledger.decide stamp (.create chat) = .ok (chat, _) :=
      if_neg (mt Ledger.contains_iff.1 hnone)
    refine ⟨_, .ofDecide stamp hdecide fun e he => ?_⟩
    cases he
    exact fun hid => hnew (hused hid)
  | get id =>
    have hfound : reply = d₁.ledger.find? id := by
      rw [show d₁.ledger.find? id = d.ledger.find? id from hc]
      exact Option.ext fun c => (hdoes.1 c).trans hkept.distinct.find?_iff.symm
    have hdecide : d₁.ledger.decide stamp (.get id) = .ok (reply, none) := by rw [hfound]; rfl
    exact ⟨_, .ofDecide stamp hdecide fun e he => by cases he⟩
  | delete id =>
    obtain ⟨hids, hempty⟩ := hc
    have hreply : reply ↔ id ∈ d₁.ledger.ids := hdoes.1.trans hids.symm
    cases reply with
    | true =>
      have hdecide : d₁.ledger.decide stamp (.delete id) = .ok (true, _) :=
        if_pos (Ledger.contains_iff.2 (hreply.1 rfl))
      refine ⟨_, .ofDecide stamp hdecide fun e he => ?_⟩
      cases he
      rintro c hchat rfl
      rw [← hempty, Ledger.messagesOf_some (hkept₁.distinct.find?_iff.2 ⟨hchat, rfl⟩)]
    | false =>
      have hdecide : d₁.ledger.decide stamp (.delete id) = .ok (false, none) :=
        if_neg fun hthere => Bool.false_ne_true (hreply.2 (Ledger.contains_iff.1 hthere))
      exact ⟨_, .ofDecide stamp hdecide fun e he => by cases he⟩
  | addMessage chatId sender content =>
    obtain ⟨-, rfl, -⟩ := hdoes
    have hdecide : d₁.ledger.decide stamp (.addMessage chatId sender content) =
        .ok (.new stamp chatId sender content, _) := if_pos (Ledger.contains_iff.2 hc)
    refine ⟨_, .ofDecide stamp hdecide fun e he => ?_⟩
    cases he
    exact fun hid => hadmits _ rfl (hused hid)
  | updateMessage id content =>
    have hdecide : d₁.ledger.decide stamp (.updateMessage id content) = .ok (reply, _) :=
      congrArg Except.ok (hchange id _ reply hdoes.1 hc)
    exact ⟨_, .ofDecide stamp hdecide fun e he => by cases reply <;> cases he; exact trivial⟩
  | deleteMessage id =>
    have hdecide : d₁.ledger.decide stamp (.deleteMessage id) = .ok (reply, _) :=
      congrArg Except.ok (hchange id _ reply hdoes.1 hc)
    exact ⟨_, .ofDecide stamp hdecide fun e he => by cases reply <;> cases he; exact trivial⟩
  | settings =>
    have hsettings : reply = d₁.ledger.settings := hdoes.1.trans hc.symm
    have hdecide : d₁.ledger.decide stamp .settings = .ok (reply, none) := by
      rw [hsettings]
      rfl
    exact ⟨_, .ofDecide stamp hdecide fun e he => by cases he⟩
  | list => exact hc.elim
  | putSettings => exact hc.elim

lemma carry_filter {ms : List Message} {ids : List Id}
    (hnew : ∀ m, e = some (.added m) → m.id ∈ ids)
    (htouched : ∀ x ∈ e, ∀ id, x.touched? = some id → id ∈ ids) :
    (carry id e.toList ms).filter (·.id ∉ ids) = ms.filter (·.id ∉ ids) := by
  have hthread : (thread id e.toList).filter (·.id ∉ ids) = [] := by
    refine List.filter_eq_nil_iff.2 fun m hm => ?_
    rcases e with _ | _ | _ | m' | _ | _ <;> simp [thread, left] at hm
    simp [hm.2, hnew m' rfl]
  have hleft (m : Message) : (left e.toList m).filter (·.id ∉ ids) =
      Option.guard (fun m => decide (m.id ∉ ids)) m := by
    by_cases hid : m.id ∈ ids
    · have hnone : Option.guard (fun m => decide (m.id ∉ ids)) m = none := by simp [hid]
      rw [hnone, Option.filter_eq_none_iff]
      intro m' hm'
      simp [left_id hm', hid]
    · have huntouched : ∀ x ∈ e.toList, x.touched? ≠ some m.id :=
        fun x hx h => hid (htouched x (Option.mem_toList.1 hx) _ h)
      simp [left_untouched huntouched, hid]
  rw [carry, List.filter_append, hthread, List.append_nil, List.filter_filterMap,
    ← List.filterMap_eq_filter]
  exact List.filterMap_congr fun m _ => hleft m

/-- The messages of a chat, but for those that are added, changed or removed. -/
lemma Kept.messagesOf_after (hkept : d.Kept l₀) (h : d.Changes l e) (ids : List Id)
    (hnew : ∀ m, e = some (.added m) → m.id ∈ ids)
    (htouched : ∀ x ∈ e, ∀ id, x.touched? = some id → id ∈ ids) (chatId : Id) :
    (l.messagesOf chatId).filter (·.id ∉ ids) =
      (d.ledger.messagesOf chatId).filter (·.id ∉ ids) := by
  cases hfind : d.ledger.find? chatId with
  | none =>
    rw [Ledger.messagesOf_none hfind]
    cases hafter : l.find? chatId with
    | none => rw [Ledger.messagesOf_none hafter]
    | some chat =>
      obtain ⟨hchat, rfl⟩ := h.distinct.find?_iff.1 hafter
      obtain rfl | ⟨⟨old, hold, hid⟩, -⟩ := h.known chat hchat
      · rw [Ledger.messagesOf_some hafter, (h.opened chat rfl).1]
      · rw [hkept.distinct.find?_iff.2 ⟨hold, hid⟩] at hfind
        cases hfind
  | some chat =>
    rw [Ledger.messagesOf_some hfind]
    by_cases hopen : .closed chatId ∈ e.toList
    · obtain ⟨hchat, rfl⟩ := hkept.distinct.find?_iff.1 hfind
      have hnone : l.find? chat.id = none := by
        refine List.find?_eq_none.2 fun c hc hid => ?_
        obtain rfl | ⟨-, hnot⟩ := h.known c hc
        · cases List.mem_singleton.1 hopen
        · exact hnot (of_decide_eq_true hid ▸ hopen)
      rw [Ledger.messagesOf_none hnone, h.admits _ (Option.mem_toList.1 hopen) chat hchat rfl]
    · obtain ⟨now, hnow⟩ := h.left _ _ hfind hopen
      rw [Ledger.messagesOf_some hnow]
      exact carry_filter hnew htouched

end Desk

end Parley
