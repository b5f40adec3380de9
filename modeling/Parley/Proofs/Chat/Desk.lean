import Parley.Proofs.Chat.History

/-!
# A ledger that is asked by many

A `Desk` is a ledger and what has happened to it since some time. New chats and messages get
identifiers that none had before. Then every chat has the messages that it had at first and those
that were added since, in the order of the calls, each as later calls left it (`Desk.Kept`).
-/

namespace Parley

namespace ChatEvent

/-- The identifier that comes into use. -/
def newId? : ChatEvent → Option Id
  | .opened chat => some chat.id
  | .added m => some m.id
  | _ => none

def added? : ChatEvent → Option Message
  | .added m => some m
  | _ => none

/-- The message that is changed or removed. -/
def touched? : ChatEvent → Option Id
  | .rewritten id _ => some id
  | .removed id => some id
  | _ => none

variable {events : List ChatEvent} {m m' : Message}

lemma mem_added? {e : Option ChatEvent} :
    m ∈ (e.bind (·.added?)).toList ↔ e = some (.added m) := by
  rcases e with _ | _ | _ | added | _ | _
  case some.added => simp [added?, eq_comm]
  all_goals simp [added?]

lemma left_untouched (h : ∀ x ∈ events, x.touched? ≠ some m.id) : left events m = some m := by
  induction events with
  | nil => rfl
  | cons e events ih =>
    obtain ⟨he, hevents⟩ := List.forall_mem_cons.1 h
    cases e with
    | rewritten id content =>
      have hne : m.id ≠ id := fun heq => he (congrArg some heq.symm)
      rw [left, if_neg hne]
      exact ih hevents
    | removed id =>
      have hne : m.id ≠ id := fun heq => he (congrArg some heq.symm)
      rw [left, if_neg hne]
      exact ih hevents
    | _ => exact ih hevents

lemma left_id (h : left events m = some m') : m'.id = m.id := by
  induction events generalizing m with
  | nil => rw [Option.some.inj h]
  | cons e events ih =>
    cases e with
    | rewritten id content =>
      have hid := ih h
      split_ifs at hid <;> exact hid
    | removed id =>
      rw [left] at h
      split_ifs at h
      exact ih h
    | _ => exact ih h

end ChatEvent

open ChatEvent (left thread carry left_append left_untouched left_id)

/-- The messages of a chat, or none if it is not there. -/
def Ledger.messagesOf (l : Ledger) (id : Id) : List Message :=
  ((l.find? id).map (·.messages)).getD []

/-- The messages with an identifier, wherever they are. -/
def Ledger.stored (l : Ledger) (id : Id) : List Message :=
  (l.chats.flatMap (·.messages)).filter (·.id = id)

namespace Ledger

variable {l : Ledger} {id : Id} {c : Chat}

lemma messagesOf_none (h : l.find? id = none) : l.messagesOf id = [] := by
  rw [messagesOf, h]
  rfl

lemma messagesOf_some (h : l.find? id = some c) : l.messagesOf id = c.messages := by
  rw [messagesOf, h]
  rfl

end Ledger

structure Desk where
  ledger : Ledger
  /-- The identifiers that were in use at first. -/
  first : List Id
  events : List ChatEvent := []

namespace Desk

/-- The identifiers of all chats and messages there ever were. -/
def used (d : Desk) : List Id := d.first ++ d.events.filterMap ChatEvent.newId?

/-- The messages that were added, in the order of the calls. -/
def posted (d : Desk) : List Message := d.events.filterMap ChatEvent.added?

/-- New identifiers are fresh, and no chat is closed that has messages. -/
def Admits (d : Desk) : ChatEvent → Prop
  | .opened chat => chat.id ∉ d.used
  | .added m => m.id ∉ d.used
  | .closed id => ∀ c ∈ d.ledger.chats, c.id = id → c.messages = []
  | _ => True

instance (d : Desk) : (e : ChatEvent) → Decidable (d.Admits e)
  | .opened chat => inferInstanceAs (Decidable (chat.id ∉ d.used))
  | .added m => inferInstanceAs (Decidable (m.id ∉ d.used))
  | .closed id => inferInstanceAs (Decidable (∀ c ∈ d.ledger.chats, c.id = id → c.messages = []))
  | .rewritten _ _ => isTrue trivial
  | .removed _ => isTrue trivial

/-- The desk after something that may have happened to the ledger. -/
def after (d : Desk) (l : Ledger) (e : Option ChatEvent) : Desk :=
  { d with ledger := l, events := d.events ++ e.toList }

variable {d : Desk} {l₀ l : Ledger} {e : Option ChatEvent} {id : Id} {m m' : Message}

lemma filterMap_toList {α β : Type} (f : α → Option β) (o : Option α) :
    o.toList.filterMap f = (o.bind f).toList := by
  rw [List.filterMap_eq_flatMap_toList, Option.toList_bind]
  rfl

lemma filterMap_snoc {α β : Type} (f : α → Option β) (as : List α) (a : α) :
    (as ++ [a]).filterMap f = as.filterMap f ++ (f a).toList := by
  rw [List.filterMap_append]
  exact congrArg _ (filterMap_toList f (some a))

@[simp] lemma after_none (d : Desk) : d.after d.ledger none = d := by
  rw [after, Option.toList_none, List.append_nil]

lemma used_after : (d.after l e).used = d.used ++ (e.bind (·.newId?)).toList := by
  rw [used, used, after, List.filterMap_append, List.append_assoc, filterMap_toList]

lemma posted_after : (d.after l e).posted = d.posted ++ (e.bind (·.added?)).toList := by
  rw [posted, posted, after, List.filterMap_append, filterMap_toList]

lemma mem_posted_after : m ∈ (d.after l e).posted ↔ m ∈ d.posted ∨ e = some (.added m) := by
  rw [posted_after, List.mem_append, ChatEvent.mem_added?]

lemma posted_used (h : m ∈ d.posted) : m.id ∈ d.used := by
  obtain ⟨e, he, hm⟩ := List.mem_filterMap.1 h
  refine List.mem_append_right _ (List.mem_filterMap.2 ⟨e, he, ?_⟩)
  cases e with
  | added m => rw [ChatEvent.newId?, Option.some.inj hm]
  | _ => cases hm

/-- Nothing happened but calls since the ledger was as it was at first. -/
structure Kept (l₀ : Ledger) (d : Desk) : Prop where
  distinct : d.ledger.Distinct
  /-- Every identifier at first was known to be in use. -/
  firsts : ∀ c ∈ l₀.chats, c.id ∈ d.first ∧ ∀ m ∈ c.messages, m.id ∈ d.first
  ids : ∀ id ∈ d.ledger.ids, id ∈ d.used
  unused : ∀ m : Message, m.id ∉ d.used → left d.events m = some m
  once : (d.posted.map (·.id)).Nodup
  new : ∀ m ∈ d.posted, m.id ∉ d.first
  chats : ∀ m ∈ d.posted, m.chatId ∈ d.used
  there : ∀ m ∈ d.posted, left d.events m ≠ none → m.chatId ∈ d.ledger.ids
  messages : ∀ c ∈ d.ledger.chats, c.messages =
    (l₀.messagesOf c.id ++ d.posted.filter (·.chatId = c.id)).filterMap (left d.events)

namespace Kept

lemma messagesOf_first (h : d.Kept l₀) (hm : m ∈ l₀.messagesOf id) : m.id ∈ d.first := by
  cases hfind : l₀.find? id with
  | none =>
    rw [Ledger.messagesOf_none hfind] at hm
    cases hm
  | some c =>
    rw [Ledger.messagesOf_some hfind] at hm
    exact (h.firsts c (List.mem_of_find?_eq_some hfind)).2 m hm

lemma messagesOf_new (h : d.Kept l₀) (hid : id ∉ d.used) : l₀.messagesOf id = [] := by
  have hnone : l₀.find? id = none := by
    refine List.find?_eq_none.2 fun c hc hcid => hid ?_
    exact List.mem_append_left _ (of_decide_eq_true hcid ▸ (h.firsts c hc).1)
  exact Ledger.messagesOf_none hnone

lemma holds_used (h : d.Kept l₀) (hid : d.ledger.Holds id) : id ∈ d.used := by
  obtain ⟨c, hc, hhas⟩ := hid
  obtain ⟨m', hm', rfl⟩ := List.mem_map.1 (Ledger.hasMessage_iff.1 hhas)
  rw [h.messages c hc] at hm'
  obtain ⟨m, hm, hleft⟩ := List.mem_filterMap.1 hm'
  rw [left_id hleft]
  obtain hold | hnew := List.mem_append.1 hm
  · exact List.mem_append_left _ (h.messagesOf_first hold)
  · exact posted_used (List.mem_filter.1 hnew).1

/-- A message that was added and not removed since is in its chat. -/
lemma found (h : d.Kept l₀) (hm : m ∈ d.posted) (hleft : left d.events m = some m') :
    ∃ c, d.ledger.find? m.chatId = some c ∧ m' ∈ c.messages := by
  obtain ⟨c, hc, hid⟩ := List.mem_map.1 (h.there m hm (by simp [hleft]))
  refine ⟨c, h.distinct.find?_iff.2 ⟨hc, hid⟩, ?_⟩
  rw [h.messages c hc]
  refine List.mem_filterMap.2 ⟨m, List.mem_append_right _ ?_, hleft⟩
  exact List.mem_filter.2 ⟨hm, decide_eq_true hid.symm⟩

/-- Of a message that was added there is what is left of it, once. -/
theorem stored_eq (h : d.Kept l₀) (hm : m ∈ d.posted) :
    d.ledger.stored m.id = (left d.events m).toList := by
  cases hleft : left d.events m with
  | none =>
    refine List.filter_eq_nil_iff.2 fun m' hm' hid => ?_
    obtain ⟨c, hc, hmem⟩ := List.mem_flatMap.1 hm'
    rw [h.messages c hc] at hmem
    obtain ⟨m₁, hm₁, hleft₁⟩ := List.mem_filterMap.1 hmem
    have hid₁ : m₁.id = m.id := (left_id hleft₁).symm.trans (of_decide_eq_true hid)
    obtain hold | hnew := List.mem_append.1 hm₁
    · exact h.new m hm (hid₁ ▸ h.messagesOf_first hold)
    · obtain rfl := List.inj_on_of_nodup_map h.once (List.mem_filter.1 hnew).1 hm hid₁
      rw [hleft] at hleft₁
      cases hleft₁
  | some m' =>
    obtain ⟨c, hfind, hmem⟩ := h.found hm hleft
    have hthere : m' ∈ d.ledger.chats.flatMap (·.messages) :=
      List.mem_flatMap.2 ⟨c, List.mem_of_find?_eq_some hfind, hmem⟩
    have hnodup : ((d.ledger.chats.flatMap (·.messages)).map (·.id)).Nodup := by
      rw [List.map_flatMap]
      exact Ledger.nodup_messages h.distinct.chats h.distinct.once h.distinct.messages
    have hone (x : Message) : x ∈ d.ledger.stored m.id ↔ x ∈ [m'] := by
      rw [Ledger.stored, List.mem_filter, List.mem_singleton, decide_eq_true_iff, ← left_id hleft]
      refine ⟨fun ⟨hx, hid⟩ => List.inj_on_of_nodup_map hnodup hx hthere hid, ?_⟩
      rintro rfl
      exact ⟨hthere, rfl⟩
    have hfiltered : (d.ledger.stored m.id).Nodup := hnodup.of_map.filter _
    exact List.perm_singleton.1
      ((List.perm_ext_iff_of_nodup hfiltered (List.nodup_singleton m')).2 hone)

lemma holds_iff (h : d.Kept l₀) (hm : m ∈ d.posted) :
    d.ledger.Holds m.id ↔ left d.events m ≠ none := by
  have hstored : d.ledger.Holds m.id ↔ d.ledger.stored m.id ≠ [] := by
    simp only [Ledger.Holds, Ledger.stored, Chat.hasMessage, List.any_eq_true, Ne,
      List.filter_eq_nil_iff, List.mem_flatMap, not_forall, not_not]
    constructor
    · rintro ⟨c, hc, m', hm', hid⟩
      exact ⟨m', ⟨c, hc, hm'⟩, hid⟩
    · rintro ⟨m', ⟨c, hc, hm'⟩, hid⟩
      exact ⟨c, hc, m', hm', hid⟩
  rw [hstored, h.stored_eq hm]
  cases left d.events m <;> simp

/-- A ledger to which nothing has happened yet. -/
lemma start (hdistinct : l.Distinct) {first : List Id}
    (hfirst : ∀ c ∈ l.chats, c.id ∈ first ∧ ∀ m ∈ c.messages, m.id ∈ first) :
    Kept l ⟨l, first, []⟩ where
  distinct := hdistinct
  firsts := hfirst
  ids id hid := by
    obtain ⟨c, hc, rfl⟩ := List.mem_map.1 hid
    exact List.mem_append_left _ (hfirst c hc).1
  unused _ _ := rfl
  once := List.nodup_nil
  new _ hm := by cases hm
  chats _ hm := by cases hm
  there _ hm := by cases hm
  messages c hc := by
    have hfind : l.find? c.id = some c := hdistinct.find?_iff.2 ⟨hc, rfl⟩
    rw [Ledger.messagesOf_some hfind, show left [] = some from rfl, List.filterMap_some]
    exact (List.append_nil _).symm

end Kept

end Desk

end Parley
