import Parley.Proofs.Chat.Effects

/-!
# The history of a ledger

What has happened to a ledger is a list of events (`ChatEvent`), one for each call that changed a
chat. The ledger is determined by them: a chat that was opened and not closed since has the messages
it came with and those added to it, in order, less those removed since, each with its last text
(`Ledger.Records`).
-/

namespace Parley

inductive ChatEvent
  | opened (chat : Chat)
  | closed (id : Id)
  | added (m : Message)
  | rewritten (id : Id) (content : String)
  | removed (id : Id)

/-- What a call did to the chats, by the reply to it. -/
def ChatCall.event? : (c : ChatCall) → Except StoreError c.Reply → Option ChatEvent
  | .create _, .ok chat => some (.opened chat)
  | .delete id, .ok true => some (.closed id)
  | .addMessage _ _ _, .ok m => some (.added m)
  | .updateMessage id content, .ok true => some (.rewritten id content)
  | .deleteMessage id, .ok true => some (.removed id)
  | _, _ => none

/-- A new message has a new identifier, and a chat brings no message that is there already or that
occurs in it twice. -/
def ChatCall.Fresh (l : Ledger) (stamp : Stamp) : ChatCall → Prop
  | .create chat => (chat.messages.map (·.id)).Nodup ∧ ∀ m ∈ chat.messages, ¬l.Holds m.id
  | .addMessage _ _ _ => ¬l.Holds stamp.id
  | _ => True

namespace ChatEvent

/-- What is left of a message after some events. -/
def left : List ChatEvent → Message → Option Message
  | [], m => some m
  | .rewritten id content :: later, m => left later (if m.id = id then { m with content } else m)
  | .removed id :: later, m => if m.id = id then none else left later m
  | _ :: later, m => left later m

/-- The messages added to a chat that are left after some events, in order. -/
def thread (chatId : Id) : List ChatEvent → List Message
  | [] => []
  | .added m :: later =>
    if m.chatId = chatId then (left later m).toList ++ thread chatId later else thread chatId later
  | _ :: later => thread chatId later

/-- What some events make of the messages of a chat. -/
def carry (chatId : Id) (events : List ChatEvent) (ms : List Message) : List Message :=
  ms.filterMap (left events) ++ thread chatId events

variable {events later : List ChatEvent} {m : Message} {chatId id : Id} {ms : List Message}

lemma left_append : left (events ++ later) m = (left events m).bind (left later) := by
  induction events generalizing m with
  | nil => rfl
  | cons e events ih =>
    cases e with
    | removed id =>
      rw [List.cons_append, left, left]
      split_ifs
      · rfl
      · exact ih
    | _ => exact ih

lemma thread_append :
    thread chatId (events ++ later) = carry chatId later (thread chatId events) := by
  induction events with
  | nil => rfl
  | cons e events ih =>
    cases e with
    | added m =>
      rw [List.cons_append, thread, thread, ih]
      split_ifs
      · rw [left_append, carry, carry, List.filterMap_append, List.append_assoc]
        congr 1
        cases left events m <;> rfl
      · rfl
    | _ => exact ih

lemma carry_carry :
    carry chatId later (carry chatId events ms) = carry chatId (events ++ later) ms := by
  have hleft : left (events ++ later) = fun m => (left events m).bind (left later) :=
    funext fun m => left_append
  rw [carry, carry, carry, List.filterMap_append, List.filterMap_filterMap, List.append_assoc,
    thread_append, carry, hleft]

lemma carry_nil : carry chatId [] ms = ms := by
  rw [carry, thread, List.append_nil]
  exact List.filterMap_some

lemma carry_rewritten {content : String} : carry chatId [.rewritten id content] ms =
    ms.map fun m => if m.id = id then { m with content } else m :=
  (List.append_nil _).trans (congrFun List.filterMap_eq_map ms)

lemma carry_removed : carry chatId [.removed id] ms = ms.filter (·.id ≠ id) := by
  rw [← List.filterMap_eq_filter]
  refine (List.append_nil _).trans (congrArg (List.filterMap · ms) (funext fun m => ?_))
  by_cases hid : m.id = id <;> simp [left, hid, Option.guard]

lemma carry_added :
    carry chatId [.added m] ms = if m.chatId = chatId then ms ++ [m] else ms := by
  rw [carry, thread, show left [.added m] = some from rfl, List.filterMap_some]
  split_ifs
  · rfl
  · exact List.append_nil ms

lemma carry_unmentioned (content : String) (h : ∀ m ∈ ms, m.id ≠ id) :
    carry chatId [.rewritten id content] ms = ms ∧ carry chatId [.removed id] ms = ms := by
  rw [carry_rewritten, carry_removed]
  refine ⟨(List.map_congr_left fun m hm => if_neg (h m hm)).trans (List.map_id _), ?_⟩
  exact List.filter_eq_self.2 fun m hm => decide_eq_true (h m hm)

/-- Where an event is, after one more or none: it is the last one, or it was there before. -/
lemma append_eq_split {e : Option ChatEvent} {before after : List ChatEvent} {x : ChatEvent}
    (h : events ++ e.toList = before ++ x :: after) :
    (e = some x ∧ events = before ∧ after = []) ∨
      ∃ since, events = before ++ x :: since ∧ after = since ++ e.toList := by
  cases e with
  | none => exact .inr ⟨after, by simpa using h, (List.append_nil _).symm⟩
  | some e =>
    obtain rfl | ⟨since, last, rfl⟩ := after.eq_nil_or_concat
    · obtain ⟨rfl, hlast⟩ := List.append_inj' h rfl
      exact .inl ⟨congrArg some (List.singleton_inj.1 hlast), rfl, rfl⟩
    · rw [List.concat_eq_append, ← List.cons_append, ← List.append_assoc] at h
      obtain ⟨hevents, hlast⟩ := List.append_inj' h rfl
      exact .inr ⟨since, hevents, by rw [List.concat_eq_append, ← hlast]⟩

end ChatEvent

namespace Ledger

open ChatEvent (left thread carry)

/-- A ledger is what some events made of one that was empty. -/
structure Records (l : Ledger) (events : List ChatEvent) : Prop where
  opened : ∀ before c after, events = before ++ .opened c :: after → .closed c.id ∉ after →
    ∃ now, l.find? c.id =
      some { c with messages := carry c.id after c.messages, updatedAt := now }
  known : ∀ c ∈ l.chats, ∃ before c₀ after, events = before ++ .opened c₀ :: after ∧
    c₀.id = c.id ∧ .closed c.id ∉ after
  added : ∀ before m after m', events = before ++ .added m :: after →
    .closed m.chatId ∉ after → left after m = some m' →
    ∃ c, l.find? m.chatId = some c ∧ m' ∈ c.messages

variable {l l' : Ledger} {id : Id} {c : Chat} {stamp : Stamp} {call : ChatCall}
  {reply : call.Reply} {events : List ChatEvent}

lemma find?_map {f : Chat → Chat} (hf : ∀ c, (f c).id = c.id) :
    find? { l with chats := l.chats.map f } id = (l.find? id).map f := by
  rw [find?, List.find?_map, find?]
  congr 2
  funext c
  rw [Function.comp_apply, hf]

lemma find?_filter {other : Id} (hid : id ≠ other) :
    find? { l with chats := l.chats.filter (·.id ≠ other) } id = l.find? id := by
  rw [find?, List.find?_filter, find?]
  congr 1
  funext c
  by_cases hc : c.id = id <;> simp [hc, hid]

lemma revised {ms ms' : List Message} (c : Chat) (now : Timestamp) (h : ms' = ms) :
    ∃ time, some { c with messages := ms', updatedAt := now } =
      some { c with messages := ms, updatedAt := time } :=
  ⟨now, by rw [h]⟩

lemma unrevised {ms : List Message} (h : c.messages = ms) :
    ∃ time, some c = some { c with messages := ms, updatedAt := time } :=
  revised c c.updatedAt h

/-- What is left of a chat that is still there after a call. -/
lemma Does.find?_left (h : l.Does stamp call reply l') (hc : l.find? id = some c)
    (hopen : .closed id ∉ (call.event? (.ok reply)).toList) :
    ∃ now, l'.find? id = some { c with
      messages := carry id (call.event? (.ok reply)).toList c.messages, updatedAt := now } := by
  have hnil : c.messages = carry id [] c.messages := ChatEvent.carry_nil.symm
  cases call with
  | create chat =>
    obtain ⟨-, -, rfl⟩ := h
    rw [find?, List.find?_append, show l.chats.find? _ = some c from hc, Option.some_or]
    exact unrevised hnil
  | delete other =>
    obtain ⟨hfound, rfl⟩ := h
    have hkept : id ≠ other := by
      rintro rfl
      have hthere := List.mem_map.2 ⟨c, List.mem_of_find?_eq_some hc, find?_id hc⟩
      obtain rfl : reply = true := hfound.2 hthere
      exact hopen (.head _)
    rw [find?_filter hkept, hc]
    cases reply with
    | false => exact unrevised hnil
    | true => exact unrevised hnil
  | addMessage chatId sender content =>
    obtain ⟨-, rfl, rfl⟩ := h
    rw [find?_map (fun d => by split_ifs <;> rfl), hc, Option.map_some]
    have hadded : carry id [.added (.new stamp chatId sender content)] c.messages = _ :=
      ChatEvent.carry_added
    by_cases hid : c.id = chatId
    · rw [if_pos hid]
      exact revised c stamp.time (hadded.trans (if_pos (hid ▸ find?_id hc))).symm
    · rw [if_neg hid]
      exact unrevised (hadded.trans (if_neg fun h => hid ((find?_id hc).trans h.symm))).symm
  | updateMessage message content =>
    obtain ⟨hfound, rfl⟩ := h
    rw [find?_map (fun d => by split_ifs <;> rfl), hc, Option.map_some]
    by_cases hhas : c.hasMessage message
    · obtain rfl : reply = true := hfound.2 ⟨c, List.mem_of_find?_eq_some hc, hhas⟩
      rw [if_pos hhas]
      exact revised c stamp.time ChatEvent.carry_rewritten.symm
    · have hnone := hasMessage_eq_false_iff.1 (Bool.eq_false_iff.2 hhas)
      rw [if_neg hhas]
      cases reply with
      | false => exact unrevised hnil
      | true => exact unrevised (ChatEvent.carry_unmentioned content hnone).1.symm
  | deleteMessage message =>
    obtain ⟨hfound, rfl⟩ := h
    rw [find?_map (fun d => by split_ifs <;> rfl), hc, Option.map_some]
    by_cases hhas : c.hasMessage message
    · obtain rfl : reply = true := hfound.2 ⟨c, List.mem_of_find?_eq_some hc, hhas⟩
      rw [if_pos hhas]
      exact revised c stamp.time ChatEvent.carry_removed.symm
    · have hnone := hasMessage_eq_false_iff.1 (Bool.eq_false_iff.2 hhas)
      rw [if_neg hhas]
      cases reply with
      | false => exact unrevised hnil
      | true => exact unrevised (ChatEvent.carry_unmentioned "" hnone).2.symm
  | get other =>
    obtain ⟨-, rfl⟩ := h
    exact hc ▸ unrevised hnil
  | list =>
    obtain ⟨-, rfl⟩ := h
    exact hc ▸ unrevised hnil
  | settings =>
    obtain ⟨-, rfl⟩ := h
    exact hc ▸ unrevised hnil
  | putSettings settings =>
    obtain ⟨-, rfl⟩ := h
    exact hc ▸ unrevised hnil

lemma mem_revised {f : Chat → Chat} (hf : ∀ d, (f d).id = d.id) (hc : c ∈ l.chats.map f) :
    ∃ d ∈ l.chats, d.id = c.id := by
  obtain ⟨d, hd, rfl⟩ := List.mem_map.1 hc
  exact ⟨d, hd, (hf d).symm⟩

/-- A chat that is there after a call was opened by it, or was there before and not closed. -/
lemma Does.known (h : l.Does stamp call reply l') (hc : c ∈ l'.chats) :
    call.event? (.ok reply) = some (.opened c) ∨
      (∃ d ∈ l.chats, d.id = c.id) ∧ .closed c.id ∉ (call.event? (.ok reply)).toList := by
  cases call with
  | create chat =>
    obtain ⟨-, hmade, rfl⟩ := h
    obtain hc | hc := List.mem_append.1 hc
    · exact .inr ⟨⟨c, hc, rfl⟩, by simp [ChatCall.event?]⟩
    · rw [List.mem_singleton.1 hc, ← hmade]
      exact .inl rfl
  | delete other =>
    obtain ⟨-, rfl⟩ := h
    obtain ⟨hc, hne⟩ := List.mem_filter.1 hc
    refine .inr ⟨⟨c, hc, rfl⟩, ?_⟩
    cases reply <;> simp [ChatCall.event?, of_decide_eq_true hne]
  | addMessage chatId sender content =>
    obtain ⟨-, -, rfl⟩ := h
    exact .inr ⟨mem_revised (fun d => by split_ifs <;> rfl) hc, by simp [ChatCall.event?]⟩
  | updateMessage message content =>
    obtain ⟨-, rfl⟩ := h
    refine .inr ⟨mem_revised (fun d => by split_ifs <;> rfl) hc, ?_⟩
    cases reply <;> simp [ChatCall.event?]
  | deleteMessage message =>
    obtain ⟨-, rfl⟩ := h
    refine .inr ⟨mem_revised (fun d => by split_ifs <;> rfl) hc, ?_⟩
    cases reply <;> simp [ChatCall.event?]
  | get other =>
    obtain ⟨-, rfl⟩ := h
    exact .inr ⟨⟨c, hc, rfl⟩, by simp [ChatCall.event?]⟩
  | list =>
    obtain ⟨-, rfl⟩ := h
    exact .inr ⟨⟨c, hc, rfl⟩, by simp [ChatCall.event?]⟩
  | settings =>
    obtain ⟨-, rfl⟩ := h
    exact .inr ⟨⟨c, hc, rfl⟩, by simp [ChatCall.event?]⟩
  | putSettings settings =>
    obtain ⟨-, rfl⟩ := h
    exact .inr ⟨⟨c, hc, rfl⟩, by simp [ChatCall.event?]⟩

/-- A chat that was opened is there, and so is a message that was added. -/
lemma Does.opened (h : l.Does stamp call reply l') {e : ChatEvent}
    (he : call.event? (.ok reply) = some e) :
    (∀ c, e = .opened c → l'.find? c.id = some c) ∧
      ∀ m, e = .added m → ∃ c, l'.find? m.chatId = some c ∧ m ∈ c.messages := by
  cases call with
  | create chat =>
    obtain ⟨hnew, hmade, rfl⟩ := h
    cases he
    refine ⟨fun c hc => ?_, fun m hm => (by cases hm)⟩
    cases hc
    rw [hmade, find?, List.find?_append, List.find?_eq_none.2 fun d hd => ?_, Option.none_or]
    · exact List.find?_singleton.trans (if_pos (decide_eq_true rfl))
    · exact fun heq => hnew (List.mem_map.2 ⟨d, hd, of_decide_eq_true heq⟩)
  | addMessage chatId sender content =>
    obtain ⟨hthere, hm, rfl⟩ := h
    cases he
    refine ⟨fun c hc => (by cases hc), fun m hadded => ?_⟩
    cases hadded
    obtain ⟨c, hc⟩ := Option.isSome_iff_exists.1
      (List.find?_isSome.2 (by simpa [ids] using hthere) : (l.find? chatId).isSome)
    rw [hm, find?_map fun d => by split_ifs <;> rfl]
    refine ⟨_, congrArg (Option.map _) hc, ?_⟩
    dsimp only
    rw [if_pos (find?_id hc)]
    exact List.mem_append_right _ (.head _)
  | delete other =>
    cases reply <;> cases he
    exact ⟨fun c hc => (by cases hc), fun m hm => (by cases hm)⟩
  | updateMessage message content =>
    cases reply <;> cases he
    exact ⟨fun c hc => (by cases hc), fun m hm => (by cases hm)⟩
  | deleteMessage message =>
    cases reply <;> cases he
    exact ⟨fun c hc => (by cases hc), fun m hm => (by cases hm)⟩
  | _ => cases he

/-- One more call is one more event, or none. -/
theorem Records.step (h : l.Records events) (hdoes : l.Does stamp call reply l') :
    l'.Records (events ++ (call.event? (.ok reply)).toList) := by
  constructor
  case opened =>
    intro before c after hsplit hopen
    obtain ⟨he, -, rfl⟩ | ⟨since, hevents, rfl⟩ := ChatEvent.append_eq_split hsplit
    · rw [(hdoes.opened he).1 c rfl]
      exact unrevised ChatEvent.carry_nil.symm
    · obtain ⟨hsince, hlast⟩ := not_or.1 (mt List.mem_append.2 hopen)
      obtain ⟨now, hc⟩ := h.opened before c since hevents hsince
      obtain ⟨now', hc'⟩ := hdoes.find?_left hc hlast
      exact ⟨now', by rw [hc', ← ChatEvent.carry_carry]⟩
  case known =>
    intro c hc
    obtain he | ⟨⟨d, hd, hid⟩, hlast⟩ := hdoes.known hc
    · exact ⟨events, c, [], by rw [he]; rfl, rfl, List.not_mem_nil⟩
    · obtain ⟨before, c₀, since, rfl, hc₀, hsince⟩ := h.known d hd
      refine ⟨before, c₀, _, List.append_assoc .., hc₀.trans hid, fun hclosed => ?_⟩
      exact (List.mem_append.1 hclosed).elim (hid ▸ hsince) hlast
  case added =>
    intro before m after m' hsplit hopen hleft
    obtain ⟨he, -, rfl⟩ | ⟨since, hevents, rfl⟩ := ChatEvent.append_eq_split hsplit
    · obtain rfl := Option.some.inj hleft
      exact (hdoes.opened he).2 m rfl
    · obtain ⟨hsince, hlast⟩ := not_or.1 (mt List.mem_append.2 hopen)
      rw [ChatEvent.left_append] at hleft
      obtain ⟨m₁, hm₁, hm'⟩ := Option.bind_eq_some_iff.1 hleft
      obtain ⟨c, hc, hmem⟩ := h.added before m since m₁ hevents hsince hm₁
      obtain ⟨now, hc'⟩ := hdoes.find?_left hc hlast
      exact ⟨_, hc', List.mem_append_left _ (List.mem_filterMap.2 ⟨m₁, hmem, hm'⟩)⟩

lemma hasMessage_iff : c.hasMessage id ↔ id ∈ c.messages.map (·.id) := by
  simp [Chat.hasMessage]

/-- Chats may be revised, and messages that were nowhere be added to one of them. -/
lemma Distinct.revise {f : Chat → Chat} (h : l.Distinct) (chatId : Id) (hid : ∀ c, (f c).id = c.id)
    (hnodup : ∀ c ∈ l.chats, ((f c).messages.map (·.id)).Nodup)
    (hnew : ∀ c ∈ l.chats, ∀ id, (f c).hasMessage id →
      c.hasMessage id ∨ ¬l.Holds id ∧ c.id = chatId) :
    Distinct { l with chats := l.chats.map f } where
  chats := by
    rw [ids, List.map_map]
    exact (List.map_congr_left fun c _ => hid c) ▸ h.chats
  messages := by
    intro c hc
    obtain ⟨d, hd, rfl⟩ := List.mem_map.1 hc
    exact hnodup d hd
  once := by
    intro id c hc d hd hidc hidd
    obtain ⟨c', hc', rfl⟩ := List.mem_map.1 hc
    obtain ⟨d', hd', rfl⟩ := List.mem_map.1 hd
    rw [hid, hid]
    obtain hold | ⟨hnone, hchat⟩ := hnew c' hc' id hidc
    · obtain hold' | ⟨hnone, -⟩ := hnew d' hd' id hidd
      · exact h.once id c' hc' d' hd' hold hold'
      · exact absurd ⟨c', hc', hold⟩ hnone
    · obtain hold | ⟨-, hchat'⟩ := hnew d' hd' id hidd
      · exact absurd ⟨d', hd', hold⟩ hnone
      · rw [hchat, hchat']

lemma Distinct.insert (h : l.Distinct) (hnew : c.id ∉ l.ids)
    (hmessages : (c.messages.map (·.id)).Nodup) (hfresh : ∀ m ∈ c.messages, ¬l.Holds m.id) :
    Distinct { l with chats := l.chats ++ [c] } where
  chats := nodup_ids_insert h.chats hnew
  messages := by
    intro d hd
    obtain hd | hd := List.mem_append.1 hd
    · exact h.messages d hd
    · exact List.mem_singleton.1 hd ▸ hmessages
  once := by
    have hapart : ∀ id, ∀ d ∈ l.chats, d.hasMessage id → ¬c.hasMessage id := by
      intro id d hd hdid hcid
      obtain ⟨m, hm, hmid⟩ := List.mem_map.1 (hasMessage_iff.1 hcid)
      exact hfresh m hm ⟨d, hd, hmid ▸ hdid⟩
    intro id d hd e he hidd hide
    obtain hd | hd := List.mem_append.1 hd
    · obtain he | he := List.mem_append.1 he
      · exact h.once id d hd e he hidd hide
      · exact absurd (List.mem_singleton.1 he ▸ hide) (hapart id d hd hidd)
    · obtain he | he := List.mem_append.1 he
      · exact absurd (List.mem_singleton.1 hd ▸ hidd) (hapart id e he hide)
      · rw [List.mem_singleton.1 hd, List.mem_singleton.1 he]

/-- Identifiers stay distinct in every call. -/
theorem Does.distinct (h : l.Does stamp call reply l') (hdistinct : l.Distinct)
    (hfresh : call.Fresh l stamp) : l'.Distinct := by
  cases call with
  | create chat =>
    obtain ⟨hnew, -, rfl⟩ := h
    exact hdistinct.insert hnew hfresh.1 hfresh.2
  | delete other =>
    obtain ⟨-, rfl⟩ := h
    have hsub : (l.chats.filter (·.id ≠ other)).Sublist l.chats := List.filter_sublist
    exact ⟨nodup_ids_erase hdistinct.chats other, fun c hc => hdistinct.messages c (hsub.subset hc),
      fun id c hc d hd => hdistinct.once id c (hsub.subset hc) d (hsub.subset hd)⟩
  | addMessage chatId sender content =>
    obtain ⟨-, rfl, rfl⟩ := h
    refine hdistinct.revise chatId (fun c => by split_ifs <;> rfl) (fun c hc => ?_)
      fun c hc id hid => ?_
    · split_ifs
      · rw [List.map_append, List.map_singleton, ← List.concat_eq_append]
        have hnew : stamp.id ∉ c.messages.map (·.id) :=
          fun hid => hfresh ⟨c, hc, hasMessage_iff.2 hid⟩
        exact (hdistinct.messages c hc).concat hnew
      · exact hdistinct.messages c hc
    · split_ifs at hid with hc'
      · rw [hasMessage_iff, List.map_append] at hid
        obtain hid | hid := List.mem_append.1 hid
        · exact .inl (hasMessage_iff.2 hid)
        · exact .inr ⟨List.mem_singleton.1 hid ▸ hfresh, hc'⟩
      · exact .inl hid
  | updateMessage message content =>
    obtain ⟨-, rfl⟩ := h
    have hids (ms : List Message) : (ms.map fun m => if m.id = message then { m with content }
        else m).map (·.id) = ms.map (·.id) := by
      rw [List.map_map]
      exact List.map_congr_left fun m _ => by rw [Function.comp_apply]; split_ifs <;> rfl
    refine hdistinct.revise message (fun c => by split_ifs <;> rfl) (fun c hc => ?_)
      fun c hc id hid => .inl ?_
    · split_ifs
      · exact (congrArg List.Nodup (hids c.messages)).mpr (hdistinct.messages c hc)
      · exact hdistinct.messages c hc
    · split_ifs at hid
      · exact hasMessage_iff.2 (hids _ ▸ hasMessage_iff.1 hid)
      · exact hid
  | deleteMessage message =>
    obtain ⟨-, rfl⟩ := h
    have hsub (ms : List Message) :
        ((ms.filter (·.id ≠ message)).map (·.id)).Sublist (ms.map (·.id)) :=
      List.filter_sublist.map _
    refine hdistinct.revise message (fun c => by split_ifs <;> rfl) (fun c hc => ?_)
      fun c hc id hid => .inl ?_
    · split_ifs
      · exact (hsub _).nodup (hdistinct.messages c hc)
      · exact hdistinct.messages c hc
    · split_ifs at hid
      · exact hasMessage_iff.2 ((hsub _).subset (hasMessage_iff.1 hid))
      · exact hid
  | get other =>
    obtain ⟨-, rfl⟩ := h
    exact hdistinct
  | list =>
    obtain ⟨-, rfl⟩ := h
    exact hdistinct
  | settings =>
    obtain ⟨-, rfl⟩ := h
    exact hdistinct
  | putSettings settings =>
    obtain ⟨-, rfl⟩ := h
    exact ⟨hdistinct.chats, hdistinct.messages, hdistinct.once⟩

/-- A ledger that was empty has been asked some things, over any slots: writes may have failed. -/
inductive Logged : List ChatEvent → Ledger → Prop
  | empty : Logged [] {}
  | called {events : List ChatEvent} {l l' : Ledger} (h : Logged events l) (slot : Slot)
    (stamp : Stamp) (call : ChatCall) (hfresh : call.Fresh l stamp) {slot' : Slot}
    {reply : Except StoreError call.Reply}
    (hcall : ChatVault.perform ⟨l, slot⟩ stamp call = (reply, ⟨l', slot'⟩)) :
    Logged (events ++ (call.event? reply).toList) l'

theorem Logged.records (h : Logged events l) : l.Distinct ∧ l.Records events := by
  induction h with
  | empty =>
    have hrecords : Records {} [] :=
      ⟨fun _ _ _ h => by simp at h, fun _ h => (by cases h), fun _ _ _ _ h => by simp at h⟩
    exact ⟨⟨List.nodup_nil, fun _ h => (by cases h), fun _ _ h => (by cases h)⟩, hrecords⟩
  | @called events l l' _ slot stamp call hfresh slot' reply hcall ih =>
    obtain ⟨hdistinct, hrecords⟩ := ih
    cases reply with
    | error e =>
      obtain ⟨hsame, -⟩ := ChatVault.perform_fails hcall
      cases hsame
      have hnone : call.event? (.error e) = none := by cases call <;> rfl
      rw [hnone, Option.toList_none, List.append_nil]
      exact ⟨hdistinct, hrecords⟩
    | ok reply =>
      have hdoes := ChatVault.perform_does hdistinct hcall
      exact ⟨hdoes.distinct hdistinct hfresh, hrecords.step hdoes⟩

end Ledger

/-- Once a ledger that was empty has been asked some things, no identifier occurs twice in it, and
each chat has the messages that the events tell of. From then on, a call that succeeds does what
`Ledger.Does` says and nothing else, and one that fails does nothing: it is refused for what it
asks, or it cannot be written down. -/
theorem Ledger.Logged.does_or_refuses {events : List ChatEvent} {l : Ledger} (h : Logged events l) :
    l.ids.Nodup ∧ (l.chats.flatMap fun c => c.messages.map (·.id)).Nodup ∧ l.Records events ∧
      ∀ slot stamp call,
        (∀ reply v, ChatVault.perform ⟨l, slot⟩ stamp call = (.ok reply, v) →
          l.Does stamp call reply v.memory) ∧
        (∀ e v, ChatVault.perform ⟨l, slot⟩ stamp call = (.error e, v) →
          v = ⟨l, slot⟩ ∧ (l.Refuses call e ∨ ¬slot.Writable)) ∧
        ∀ e, l.Refuses call e → ChatVault.perform ⟨l, slot⟩ stamp call = (.error e, ⟨l, slot⟩) := by
  obtain ⟨hdistinct, hrecords⟩ := h.records
  have hmessages := nodup_messages hdistinct.chats hdistinct.once hdistinct.messages
  refine ⟨hdistinct.chats, hmessages, hrecords, fun slot stamp call => ?_⟩
  exact ⟨fun reply v => ChatVault.perform_does hdistinct, fun e v => ChatVault.perform_fails,
    fun e => ChatVault.perform_refuses (v := ⟨l, slot⟩)⟩

/-- A chat is opened, a message is added to it and written anew, and so the list shows it. -/
theorem Ledger.Logged.does_or_refuses_rewritten :
    let chat : Chat := .new ⟨.ofNat 1, default⟩ "diary"
    let m : Message := .new ⟨.ofNat 2, default⟩ (.ofNat 1) .human "Dear"
    ∃ l, Logged [.opened chat, .added m, .rewritten m.id "Dear diary"] l ∧
      (∃ now, l.find? chat.id =
        some { chat with messages := [{ m with content := "Dear diary" }], updatedAt := now }) ∧
      (∀ slot stamp v, ChatVault.perform ⟨l, slot⟩ stamp (.deleteMessage m.id) = (.ok false, v) →
        ¬l.Holds m.id) ∧
      ∀ slot stamp shown v, ChatVault.perform ⟨l, slot⟩ stamp .list = (.ok shown, v) →
        shown = [⟨chat.id, "diary", some ⟨"Dear diary", .human⟩, default⟩] := by
  intro chat m
  have hopened : Logged [.opened chat] _ :=
    .called .empty {} default (.create chat) ⟨List.nodup_nil, nofun⟩ rfl
  have hnew : ¬Holds { chats := [chat] } m.id := by
    rintro ⟨c, hc, hm⟩
    obtain rfl := List.mem_singleton.1 hc
    cases hm
  have hadded : Logged [.opened chat, .added m] _ :=
    hopened.called {} ⟨.ofNat 2, default⟩ (.addMessage (.ofNat 1) .human "Dear") hnew rfl
  have hlogged : Logged [.opened chat, .added m, .rewritten m.id "Dear diary"] _ :=
    hadded.called {} default (.updateMessage m.id "Dear diary") trivial rfl
  obtain ⟨-, -, hrecords, hcalls⟩ := hlogged.does_or_refuses
  refine ⟨_, hlogged, hrecords.opened [] chat _ rfl (by simp), fun slot stamp v h hholds => ?_,
    fun slot stamp shown v h => ?_⟩
  · obtain ⟨hdoes, -, -⟩ := hcalls slot stamp (.deleteMessage m.id)
    cases (hdoes _ _ h).1.2 hholds
  · obtain ⟨hdoes, -, -⟩ := hcalls slot stamp .list
    obtain ⟨⟨cs, hperm, -, hshown⟩, -⟩ := hdoes _ _ h
    obtain rfl := List.perm_singleton.1 hperm
    obtain ⟨s, rest, hs, hrest, rfl⟩ := List.forall₂_cons_left_iff.1 hshown
    obtain rfl := List.forall₂_nil_left_iff.1 hrest
    obtain ⟨id, name, last, createdAt⟩ := s
    obtain ⟨rfl, rfl, rfl, -, hlast⟩ := hs
    obtain rfl := hlast [] _ rfl
    rfl

end Parley
