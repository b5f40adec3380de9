import Parley.Proofs.Agent.Form
import Parley.Proofs.Chat.Effects
import Parley.Proofs.Store.Attempts

/-!
# The stores of chats and agents are durable

Both stores keep their identifiers distinct (`Ledger.Fit`, `Roster.Fit`), so what they write can be
read again, and both write before they change anything in memory. So in every state they come to,
whatever writes fail, a failed call has left no trace and nothing is lost if the store is opened
again (`stores_durable`).
-/

namespace Parley

/-! ### Chats -/

namespace Chat

variable {c : Chat} {id : Id} {now : Timestamp}

lemma setContent_times {content : String} {ms : List Message}
    (h : ∀ m ∈ ms, m.createdAt.Proper) : ∀ m ∈ setContent id content ms, m.createdAt.Proper := by
  induction ms with
  | nil => exact h
  | cons m ms ih =>
    obtain ⟨hm, hms⟩ := List.forall_mem_cons.1 h
    rw [setContent]
    split_ifs
    · exact List.forall_mem_cons.2 ⟨hm, hms⟩
    · exact List.forall_mem_cons.2 ⟨hm, ih hms⟩

namespace Timely

lemma addMessage (h : c.Timely) {m : Message} (hm : m.createdAt.Proper) (hnow : now.Proper) :
    (c.addMessage m now).Timely where
  createdAt := h.createdAt
  updatedAt := hnow
  messages := List.forall_mem_append.2 ⟨h.messages, List.forall_mem_singleton.2 hm⟩

lemma updateMessage (h : c.Timely) (id : Id) (content : String) (hnow : now.Proper) :
    (c.updateMessage id content now).Timely where
  createdAt := h.createdAt
  updatedAt := hnow
  messages := setContent_times h.messages

lemma deleteMessage (h : c.Timely) (id : Id) (hnow : now.Proper) :
    (c.deleteMessage id now).Timely where
  createdAt := h.createdAt
  updatedAt := hnow
  messages m hm := h.messages m (List.mem_of_mem_filter hm)

end Timely

end Chat

/-- All times that come with the call are proper ones. -/
def ChatCall.Timely (stamp : Stamp) : ChatCall → Prop
  | .create chat => chat.Timely
  | _ => stamp.time.Proper

namespace Ledger

/-- What a store of chats holds: chats with identifiers of their own and proper times. -/
structure Fit (l : Ledger) : Prop where
  timely : l.Timely
  ids : l.ids.Nodup

variable {l next : Ledger} {id : Id} {c : Chat} {stamp : Stamp}

lemma changeMessage_eq (l : Ledger) (id : Id) (f : Chat → Chat) :
    l.changeMessage id f = (false, none) ∨
      ∃ chat, l.changeMessage id f = (true, some (l.modify chat f)) := by
  unfold changeMessage
  split
  · exact .inl rfl
  · exact .inr ⟨_, rfl⟩

namespace Fit

lemma insert (h : l.Fit) (hc : c.Timely) (hnew : c.id ∉ l.ids) : (l.insert c).Fit where
  timely := List.forall_mem_append.2 ⟨h.timely, List.forall_mem_singleton.2 hc⟩
  ids := nodup_ids_insert h.ids hnew

lemma erase (h : l.Fit) (id : Id) : (l.erase id).Fit where
  timely c hc := h.timely c (List.mem_of_mem_filter hc)
  ids := nodup_ids_erase h.ids id

lemma modify {f : Chat → Chat} (h : l.Fit) (hid : ∀ c, (f c).id = c.id)
    (hf : ∀ c : Chat, c.Timely → (f c).Timely) : (l.modify id f).Fit where
  timely := by
    intro c hc
    obtain ⟨d, hd, rfl⟩ := List.mem_map.1 hc
    split_ifs
    · exact hf d (h.timely d hd)
    · exact h.timely d hd
  ids := by
    rw [ids_modify hid]
    exact h.ids

lemma changeMessage {f : Chat → Chat} (h : l.Fit) (hid : ∀ c, (f c).id = c.id)
    (hf : ∀ c : Chat, c.Timely → (f c).Timely) {found : Bool}
    (hnext : l.changeMessage id f = (found, some next)) : next.Fit := by
  obtain hnone | ⟨chat, hsome⟩ := l.changeMessage_eq id f
  · cases hnone.symm.trans hnext
  · cases hsome.symm.trans hnext
    exact h.modify hid hf

theorem decide {call : ChatCall} {reply : call.Reply} (h : l.Fit) (htimely : call.Timely stamp)
    (hdecide : l.decide stamp call = .ok (reply, some next)) : next.Fit := by
  cases call with
  | create chat =>
    simp only [Ledger.decide] at hdecide
    split_ifs at hdecide with hthere
    cases hdecide
    exact h.insert htimely (mt contains_iff.2 hthere)
  | delete id =>
    simp only [Ledger.decide] at hdecide
    split_ifs at hdecide <;> cases hdecide
    exact h.erase id
  | addMessage chatId sender content =>
    simp only [Ledger.decide] at hdecide
    split_ifs at hdecide
    cases hdecide
    exact h.modify (fun _ => rfl) fun c hc => hc.addMessage htimely htimely
  | updateMessage id content =>
    exact h.changeMessage (f := (·.updateMessage id content stamp.time)) (fun _ => rfl)
      (fun c hc => hc.updateMessage id content htimely) (Except.ok.inj hdecide)
  | deleteMessage id =>
    exact h.changeMessage (f := (·.deleteMessage id stamp.time)) (fun _ => rfl)
      (fun c hc => hc.deleteMessage id htimely) (Except.ok.inj hdecide)
  | putSettings settings =>
    cases hdecide
    exact ⟨h.timely, h.ids⟩
  | _ => cases hdecide

end Fit

/-- What is said not to be there changes nothing, and nothing else leaves a ledger as it was but a
question. -/
lemma decide_kept {call : ChatCall} {reply : call.Reply} {next : Option Ledger}
    (hdecide : l.decide stamp call = .ok (reply, next)) :
    (call.absent? = some reply → next = none) ∧
      (next = none → call.writes = false ∨ call.absent? = some reply) := by
  cases call with
  | create chat =>
    simp only [decide] at hdecide
    split_ifs at hdecide
    cases hdecide
    constructor <;> intro h <;> cases h
  | delete id =>
    simp only [decide] at hdecide
    split_ifs at hdecide <;> cases hdecide
    · constructor <;> intro h <;> cases h
    · exact ⟨fun _ => rfl, fun _ => .inr rfl⟩
  | addMessage chatId sender content =>
    simp only [decide] at hdecide
    split_ifs at hdecide
    cases hdecide
    constructor <;> intro h <;> cases h
  | updateMessage id content =>
    obtain hnone | ⟨chat, hsome⟩ := l.changeMessage_eq id (·.updateMessage id content stamp.time)
    · cases hnone.symm.trans (Except.ok.inj hdecide)
      exact ⟨fun _ => rfl, fun _ => .inr rfl⟩
    · cases hsome.symm.trans (Except.ok.inj hdecide)
      constructor <;> intro h <;> cases h
  | deleteMessage id =>
    obtain hnone | ⟨chat, hsome⟩ := l.changeMessage_eq id (·.deleteMessage id stamp.time)
    · cases hnone.symm.trans (Except.ok.inj hdecide)
      exact ⟨fun _ => rfl, fun _ => .inr rfl⟩
    · cases hsome.symm.trans (Except.ok.inj hdecide)
      constructor <;> intro h <;> cases h
  | putSettings settings =>
    cases hdecide
    constructor <;> intro h <;> cases h
  | _ =>
    cases hdecide
    exact ⟨fun _ => rfl, fun _ => .inl rfl⟩

end Ledger

namespace ChatVault

lemma openSlot_absent {slot : Slot} (h : slot.entry = .absent) :
    openSlot slot = .ok ⟨{}, slot⟩ := by
  rw [openSlot, Slot.read, h]
  rfl

/-- What was written is read again. -/
theorem openSlot_file {l : Ledger} {slot : Slot} (hfit : l.Fit)
    (h : slot.entry = .file l.text) : openSlot slot = .ok ⟨l, slot⟩ := by
  have hread : slot.read = .ok (some l.text) := by rw [Slot.read, h]
  have hdecode := Ledger.decode_text hfit.timely hfit.ids
  simp only [openSlot, hread, hdecode, bind, Except.bind, pure, Except.pure]

/-- The store of chats. -/
def kind : StoreKind Ledger ChatCall ChatCall.Reply where
  empty := {}
  text := Ledger.text
  decide := Ledger.decide
  perform := perform
  Opens slot v := openSlot slot = .ok v
  Refuses := Ledger.Refuses
  absent? := ChatCall.absent?
  writes := ChatCall.writes

theorem kind_lawful : kind.Lawful Ledger.Fit ChatCall.Timely where
  perform_eq _ _ _ := rfl
  refuses _ h := Ledger.decide_error_iff.2 h
  unchanged h := (Ledger.decide_kept h).1
  changing h := (Ledger.decide_kept h).2 rfl
  fit_empty := ⟨List.forall_mem_nil _, List.nodup_nil⟩
  fit_next hfit htimely h := hfit.decide htimely h
  opens_empty h := openSlot_absent h
  opens_text hfit h := openSlot_file hfit h

end ChatVault

/-! ### Agents -/

/-- All times that come with the call are proper ones. -/
def AgentCall.Timely (stamp : Stamp) : AgentCall → Prop
  | .create agent => agent.Timely
  | _ => stamp.time.Proper

/-- The call changes what is kept, if it succeeds. -/
def AgentCall.writes : AgentCall → Bool
  | .get _ => false
  | .list => false
  | _ => true

namespace Roster

def ids (r : Roster) : List Id := r.agents.map (·.id)

/-- The calls that are refused for what they ask: an agent with an identifier that is taken, and a
change to an agent that is not there. -/
inductive Refuses (r : Roster) : AgentCall → StoreError → Prop
  | taken {agent : Agent} (h : agent.id ∈ r.ids) : Refuses r (.create agent)
      (.invalidInput s!"Agent with ID {agent.id.text} already exists")
  | unknown {agent : Agent} (h : agent.id ∉ r.ids) :
    Refuses r (.update agent) (.agentNotFound agent.id.text)

/-- What a store of agents holds: agents with identifiers of their own and proper times. -/
structure Fit (r : Roster) : Prop where
  timely : r.Timely
  ids : r.ids.Nodup

variable {r next : Roster} {id : Id} {a : Agent} {stamp : Stamp}

lemma contains_iff : r.contains id ↔ id ∈ r.ids := by
  simp [contains, ids]

lemma find?_eq_none_iff : r.find? id = none ↔ id ∉ r.ids := by
  simp [find?, ids]

lemma decide_refuses {call : AgentCall} {e : StoreError} (h : r.Refuses call e) :
    r.decide stamp call = .error e := by
  cases h with
  | taken hthere => exact if_pos (contains_iff.2 hthere)
  | unknown hgone =>
    rw [decide, find?_eq_none_iff.2 hgone]

namespace Fit

lemma insert (h : r.Fit) (ha : a.Timely) (hnew : a.id ∉ r.ids) : (r.insert a).Fit where
  timely := List.forall_mem_append.2 ⟨h.timely, List.forall_mem_singleton.2 ha⟩
  ids := by
    rw [Roster.ids, Roster.insert, List.map_append, List.map_singleton, ← List.concat_eq_append]
    exact h.ids.concat hnew

lemma erase (h : r.Fit) (id : Id) : (r.erase id).Fit where
  timely a ha := h.timely a (List.mem_of_mem_filter ha)
  ids := h.ids.sublist (List.filter_sublist.map _)

lemma replace (h : r.Fit) (ha : a.Timely) : (r.replace a).Fit where
  timely := by
    intro b hb
    obtain ⟨c, hc, rfl⟩ := List.mem_map.1 hb
    split_ifs
    · exact ha
    · exact h.timely c hc
  ids := by
    have hids : (r.replace a).ids = r.ids := by
      rw [Roster.ids, Roster.ids, Roster.replace, List.map_map]
      refine List.map_congr_left fun b _ => ?_
      rw [Function.comp_apply]
      split_ifs with hid
      · exact hid.symm
      · rfl
    rw [hids]
    exact h.ids

theorem decide {call : AgentCall} {reply : call.Reply} (h : r.Fit) (htimely : call.Timely stamp)
    (hdecide : r.decide stamp call = .ok (reply, some next)) : next.Fit := by
  cases call with
  | create agent =>
    simp only [Roster.decide] at hdecide
    split_ifs at hdecide with hthere
    cases hdecide
    exact h.insert htimely (mt contains_iff.2 hthere)
  | update agent =>
    simp only [Roster.decide] at hdecide
    split at hdecide <;> cases hdecide
    next old hold => exact h.replace ⟨(h.timely old (List.mem_of_find?_eq_some hold)).1, htimely⟩
  | delete id =>
    simp only [Roster.decide] at hdecide
    split_ifs at hdecide <;> cases hdecide
    exact h.erase id
  | _ => cases hdecide

end Fit

/-- What is said not to be there changes nothing, and nothing else leaves a roster as it was but a
question. -/
lemma decide_kept {call : AgentCall} {reply : call.Reply} {next : Option Roster}
    (hdecide : r.decide stamp call = .ok (reply, next)) :
    (call.absent? = some reply → next = none) ∧
      (next = none → call.writes = false ∨ call.absent? = some reply) := by
  cases call with
  | create agent =>
    simp only [decide] at hdecide
    split_ifs at hdecide
    cases hdecide
    constructor <;> intro h <;> cases h
  | update agent =>
    simp only [decide] at hdecide
    split at hdecide <;> cases hdecide
    constructor <;> intro h <;> cases h
  | delete id =>
    simp only [decide] at hdecide
    split_ifs at hdecide <;> cases hdecide
    · constructor <;> intro h <;> cases h
    · exact ⟨fun _ => rfl, fun _ => .inr rfl⟩
  | _ =>
    cases hdecide
    exact ⟨fun _ => rfl, fun _ => .inl rfl⟩

end Roster

namespace AgentVault

lemma openSlot_absent {slot : Slot} (h : slot.entry = .absent) :
    openSlot slot = pure (.ok ⟨{}, slot⟩) := by
  rw [openSlot, Slot.read, h]

/-- What was written is read again. -/
theorem openSlot_file {r : Roster} {slot : Slot} (hfit : r.Fit)
    (h : slot.entry = .file r.text) : openSlot slot = pure (.ok ⟨r, slot⟩) := by
  have hread : slot.read = .ok (some r.text) := by rw [Slot.read, h]
  have hdecode := Roster.decode_text hfit.timely hfit.ids
  simp only [openSlot, hread, hdecode, pure_bind]

/-- The store of agents. -/
def kind : StoreKind Roster AgentCall AgentCall.Reply where
  empty := {}
  text := Roster.text
  decide := Roster.decide
  perform := perform
  Opens slot v := openSlot slot = pure (.ok v)
  Refuses := Roster.Refuses
  absent? := AgentCall.absent?
  writes := AgentCall.writes

theorem kind_lawful : kind.Lawful Roster.Fit AgentCall.Timely where
  perform_eq _ _ _ := rfl
  refuses _ h := Roster.decide_refuses h
  unchanged h := (Roster.decide_kept h).1
  changing h := (Roster.decide_kept h).2 rfl
  fit_empty := ⟨List.forall_mem_nil _, List.nodup_nil⟩
  fit_next hfit htimely h := hfit.decide htimely h
  opens_empty h := openSlot_absent h
  opens_text hfit h := openSlot_file hfit h

end AgentVault

/-- In a store that began with an empty slot, a call that failed has left no trace, a call that is
refused leaves none, and a store opened from the slot holds what is in memory. -/
theorem stores_durable {slot : Slot} (habsent : slot.entry = .absent) :
    (∀ as : List (Attempt ChatCall), (∀ a ∈ as, a.call.Timely a.stamp) →
      ChatVault.kind.Durable (ChatVault.kind.attemptAll ⟨{}, slot⟩ as).2) ∧
    ∀ as : List (Attempt AgentCall), (∀ a ∈ as, a.call.Timely a.stamp) →
      AgentVault.kind.Durable (AgentVault.kind.attemptAll ⟨{}, slot⟩ as).2 :=
  ⟨fun _ htimely => ChatVault.kind_lawful.durable habsent htimely,
    fun _ htimely => AgentVault.kind_lawful.durable habsent htimely⟩

/-- A chat and an agent are kept. A message and a deletion that cannot be written are not. -/
theorem stores_durable_unwritten :
    let stamp : Stamp := ⟨.ofNat 1, ⟨0, 0⟩⟩
    let chat : Chat := .new stamp "diary"
    let message : Attempt ChatCall :=
      ⟨.addMessage chat.id .human "Dear", stamp, some Slot.isFolder⟩
    let agent : Agent := .new stamp "sketch" []
    let deletion : Attempt AgentCall := ⟨.delete agent.id, stamp, some Slot.isFolder⟩
    (∃ v : ChatVault, v.memory = { chats := [chat] } ∧ ChatVault.openSlot v.slot = .ok v ∧
      ChatVault.kind.attempt v message = (.error Slot.isFolder, v)) ∧
    ∃ v : AgentVault, v.memory = ⟨[agent]⟩ ∧ AgentVault.openSlot v.slot = pure (.ok v) ∧
      AgentVault.kind.attempt v deletion = (.error Slot.isFolder, v) := by
  intro stamp chat message agent deletion
  have hstamp : stamp.time.Proper := ⟨by decide, by decide, by decide⟩
  obtain ⟨hchats, hagents⟩ := @stores_durable {} rfl
  have hchat := hchats [⟨.create chat, stamp, none⟩, message] <| by
    have hcreate : chat.Timely := ⟨hstamp, hstamp, nofun⟩
    simpa [message, ChatCall.Timely] using ⟨hcreate, hstamp⟩
  have hagent := hagents [⟨.create agent, stamp, none⟩, deletion] <| by
    have hcreate : agent.Timely := ⟨hstamp, hstamp⟩
    simpa [deletion, AgentCall.Timely] using ⟨hcreate, hstamp⟩
  exact ⟨⟨_, rfl, hchat.reopened, hchat.unsaved rfl rfl⟩,
    ⟨_, rfl, hagent.reopened, hagent.unsaved rfl rfl⟩⟩

end Parley
