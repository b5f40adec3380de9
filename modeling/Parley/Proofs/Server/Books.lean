import Parley.Proofs.Chat.Rounds
import Parley.Proofs.Server.Lapse

/-!
# The rounds of a world

The books of a world are the rounds that its chats are made of (`World.Books`). A store call changes
them as it is told: a chat is made, a message sent, a place held for its reply, the reply written or
deleted, or a chat deleted with all its rounds.
-/

namespace Parley

open Round (Apart)

namespace World

/-- The chats of a world are made of some rounds, if `shown` is what the replies say that are still
there. A chat begins with the round that it was made for, but for one that is still being made. The
other chats that there were are deleted. -/
structure Books (w : World) (shown : Id → Option String) (making : Option Id)
    (rounds : List Round) (deleted : List Id) : Prop where
  obliging : w.Obliging
  tells : w.chats.memory.Tells shown rounds
  apart : Apart rounds
  first : ∀ id ∈ w.chats.memory.ids, some id ≠ making →
    ∃ r, rounds.find? (·.chatId = id) = some r ∧ r.opens
  there : ∀ r ∈ rounds, r.chatId ∈ deleted ∨ r.chatId ∈ w.chats.memory.ids
  chatDrawn : ∀ id ∈ w.chats.memory.ids, w.stamps.Drawn id
  drawn : ∀ r ∈ rounds, ∀ id ∈ r.chatId :: r.ids, w.stamps.Drawn id

variable {w w' : World} {shown shown' : Id → Option String} {making making' : Option Id}
  {rounds : List Round} {deleted deleted' : List Id} {r : Round} {id : Id}

lemma performChat_drawn {c : ChatCall} {reply : Except StoreError c.Reply}
    (h : w.performChat c = (reply, w')) : w'.stamps.Drawn w.draw.1.id := by
  unfold performChat at h
  cases h
  exact ⟨w.stamps.drawn, Nat.lt_succ_self _, rfl⟩

/-- A new identifier was not handed out before. -/
lemma draw_fresh (hw : w.draw.2.stamps.Distinct) : ¬w.stamps.Drawn w.draw.1.id := by
  rintro ⟨i, hi, heq⟩
  exact Nat.ne_of_lt hi (hw i (Nat.lt_succ_of_lt hi) _ (Nat.lt_succ_self _) heq)

lemma performChat_carried {c : ChatCall} {reply : Except StoreError c.Reply}
    (h : w.performChat c = (reply, w')) :
    w.chats.memory.Carried w.draw.1 c reply w'.chats.memory := by
  unfold performChat at h
  cases h
  exact ChatVault.perform_carried rfl

namespace Books

lemma drawn_steady (h : w.Books shown making rounds deleted) (hsteady : w.Steady w') :
    ∀ r ∈ rounds, ∀ id ∈ r.chatId :: r.ids, w'.stamps.Drawn id :=
  fun r hr id hid => hsteady.drawn_of (h.drawn r hr id hid)

/-- A new identifier belongs to no round. -/
lemma new_notMem {c : ChatCall} {reply : Except StoreError c.Reply}
    (h : w.Books shown making rounds deleted) (hperform : w.performChat c = (reply, w'))
    (hw' : w'.stamps.Distinct) : ∀ r ∈ rounds, w.draw.1.id ∉ r.ids := by
  intro r hr hid
  unfold performChat at hperform
  cases hperform
  exact draw_fresh hw' (h.drawn r hr _ (List.mem_cons_of_mem _ hid))

lemma revise (h : w.Books shown making rounds deleted) (hsteady : w.Steady w')
    (hids : w'.chats.memory.ids = w.chats.memory.ids)
    (htells : w'.chats.memory.Tells shown' rounds) : w'.Books shown' making rounds deleted where
  obliging := hsteady.obliging h.obliging
  tells := htells
  apart := h.apart
  first := hids ▸ h.first
  there := hids ▸ h.there
  chatDrawn id hid := hsteady.drawn_of (h.chatDrawn id (hids ▸ hid))
  drawn := h.drawn_steady hsteady

lemma steady (h : w.Books shown making rounds deleted) (hsteady : w.Steady w')
    (hchats : w'.chats.memory.chats = w.chats.memory.chats) :
    w'.Books shown making rounds deleted :=
  h.revise hsteady (congrArg (·.map (·.id)) hchats) (h.tells.congr hchats)

/-- A chat is made, which has no rounds so far. -/
lemma create (h : w.Books shown none rounds deleted) {chat made : Chat}
    (hperform : w.performChat (.create chat) = (.ok made, w')) (hmessages : chat.messages = [])
    (hdrawn : w.stamps.Drawn chat.id) (hrounds : ∀ r ∈ rounds, r.chatId ≠ chat.id) :
    w'.Books shown (some chat.id) rounds deleted := by
  have hsteady := performChat_steady hperform
  obtain ⟨rfl, hfresh, hmemory⟩ := (performChat_carried hperform).create
  have hids (id : Id) : id ∈ w'.chats.memory.ids ↔ id ∈ w.chats.memory.ids ∨ id = made.id := by
    simp [hmemory, Ledger.ids, Ledger.insert, eq_comm]
  constructor
  case obliging => exact hsteady.obliging h.obliging
  case tells => exact hmemory ▸ h.tells.insert hfresh hmessages hrounds
  case apart => exact h.apart
  case drawn => exact h.drawn_steady hsteady
  case first =>
    intro id hid hne
    have hold := ((hids id).1 hid).resolve_right fun heq => hne (congrArg some heq)
    exact h.first id hold (by simp)
  case there =>
    intro r hr
    exact (h.there r hr).imp_right fun hold => (hids _).2 (.inl hold)
  case chatDrawn =>
    intro id hid
    obtain hold | rfl := (hids id).1 hid
    · exact hsteady.drawn_of (h.chatDrawn id hold)
    · exact hsteady.drawn_of hdrawn

/-- A message is sent to a chat, as the first one if the chat is being made. -/
lemma sent (h : w.Books shown making rounds deleted) {content : String} {m : Message}
    (hperform : w.performChat (.addMessage id .human content) = (.ok m, w')) {opens : Bool}
    (hmaking : making = none ∨ making = some id ∧ opens ∧ ∀ r ∈ rounds, r.chatId ≠ id)
    (hw' : w'.stamps.Distinct) :
    w'.Books shown none (rounds ++ [{ sent := m, opens }]) deleted := by
  have hsteady := performChat_steady hperform
  obtain ⟨hm, hthere, hmemory⟩ := (performChat_carried hperform).addMessage
  have hids : w'.chats.memory.ids = w.chats.memory.ids := hmemory ▸ Ledger.ids_modify fun _ => rfl
  have hmid : m.id = w.draw.1.id := hm ▸ rfl
  obtain rfl : id = m.chatId := hm ▸ rfl
  rw [Ledger.contains_iff] at hthere
  constructor
  case obliging => exact hsteady.obliging h.obliging
  case tells => exact hmemory ▸ h.tells.sent (r := { sent := m, opens }) rfl w.draw.1.time
  case apart =>
    refine Round.apart_append.2 ⟨h.apart, List.nodup_singleton _, fun r hr id hid hmem => ?_⟩
    obtain rfl := List.mem_singleton.1 hid
    exact h.new_notMem hperform hw' r hr (hmid ▸ hmem)
  case first =>
    intro id hid _
    apply Round.first_sent
    by_cases hfound : some id = making
    · obtain rfl | ⟨rfl, hopens, hrounds⟩ := hmaking
      · cases hfound
      · obtain rfl := Option.some.inj hfound
        exact .inr ⟨rfl, hopens, hrounds⟩
    · exact .inl (h.first id (hids ▸ hid) hfound)
  case there =>
    intro r hr
    rw [hids]
    obtain hr | hr := List.mem_append.1 hr
    · exact h.there r hr
    · obtain rfl := List.mem_singleton.1 hr
      exact .inr hthere
  case chatDrawn => exact fun id hid => hsteady.drawn_of (h.chatDrawn id (hids ▸ hid))
  case drawn =>
    intro r hr
    obtain hr | hr := List.mem_append.1 hr
    · exact h.drawn_steady hsteady r hr
    · obtain rfl := List.mem_singleton.1 hr
      refine List.forall_mem_cons.2 ⟨hsteady.drawn_of (h.chatDrawn _ hthere), ?_⟩
      exact List.forall_mem_singleton.2 (hmid ▸ performChat_drawn hperform)

/-- The last message that was sent gets a place for its reply. -/
lemma placed (h : w.Books shown making (rounds ++ [r]) deleted) (hr : r.reply = none) {m : Message}
    (hperform : w.performChat (.addMessage r.chatId .ai "") = (.ok m, w'))
    (hw' : w'.stamps.Distinct) : w'.Books (Function.update shown m.id (some "")) making
      (rounds ++ [{ r with reply := some m }]) deleted := by
  have hsteady := performChat_steady hperform
  obtain ⟨hm, -, hmemory⟩ := (performChat_carried hperform).addMessage
  have hids : w'.chats.memory.ids = w.chats.memory.ids := hmemory ▸ Ledger.ids_modify fun _ => rfl
  have hmid : m.id = w.draw.1.id := hm ▸ rfl
  have hnew : ∀ r' ∈ rounds ++ [r], m.id ∉ r'.ids := hmid ▸ h.new_notMem hperform hw'
  have hrounds : ∀ r' ∈ rounds, m.id ∉ r'.ids := fun r' hr' => hnew r' (List.mem_append_left _ hr')
  constructor
  case obliging => exact hsteady.obliging h.obliging
  case tells => exact hmemory ▸ h.tells.placed hr (hm ▸ rfl) hrounds w.draw.1.time
  case apart => exact h.apart.placed hr hnew
  case first => exact fun id hid hne => Round.first_placed m (h.first id (hids ▸ hid) hne)
  case there =>
    intro r' hr'
    rw [hids]
    obtain hr' | hr' := List.mem_append.1 hr'
    · exact h.there r' (List.mem_append_left _ hr')
    · obtain rfl := List.mem_singleton.1 hr'
      exact h.there r (by simp)
  case chatDrawn => exact fun id hid => hsteady.drawn_of (h.chatDrawn id (hids ▸ hid))
  case drawn =>
    intro r' hr'
    obtain hr' | hr' := List.mem_append.1 hr'
    · exact h.drawn_steady hsteady r' (List.mem_append_left _ hr')
    · obtain rfl := List.mem_singleton.1 hr'
      have hold := h.drawn_steady hsteady r (by simp)
      rw [Round.ids_placed hr]
      refine List.forall_mem_cons.2 ⟨hold _ List.mem_cons_self, List.forall_mem_append.2 ⟨?_, ?_⟩⟩
      · exact fun id hid => hold id (List.mem_cons_of_mem _ hid)
      · exact List.forall_mem_singleton.2 (hmid ▸ performChat_drawn hperform)

/-- A chat is deleted with its rounds. -/
lemma erase (h : w.Books shown making rounds deleted)
    (hperform : w.performChat (.delete id) = (.ok true, w'))
    (hmaking : making = none ∨ making = some id)
    (hdeleted : ∀ r ∈ rounds, r.chatId ∈ deleted ∨ r.chatId = id → r.chatId ∈ deleted') :
    w'.Books shown none rounds deleted' := by
  have hsteady := performChat_steady hperform
  have hmemory := (performChat_carried hperform).delete
  have hids (id' : Id) : id' ∈ w'.chats.memory.ids ↔ id' ∈ w.chats.memory.ids ∧ id' ≠ id := by
    rw [hmemory, Ledger.mem_ids_erase]
  constructor
  case obliging => exact hsteady.obliging h.obliging
  case tells => exact hmemory ▸ h.tells.erase id
  case apart => exact h.apart
  case first =>
    intro id' hid' _
    obtain ⟨hold, hne⟩ := (hids id').1 hid'
    refine h.first id' hold fun heq => ?_
    obtain rfl | rfl := hmaking
    · cases heq
    · exact hne (Option.some.inj heq)
  case there =>
    intro r hr
    by_cases hid : r.chatId = id
    · exact .inl (hdeleted r hr (.inr hid))
    · exact (h.there r hr).imp (fun hgone => hdeleted r hr (.inl hgone))
        fun hthere => (hids _).2 ⟨hthere, hid⟩
  case chatDrawn =>
    intro id' hid'
    exact hsteady.drawn_of (h.chatDrawn id' ((hids id').1 hid').1)
  case drawn => exact h.drawn_steady hsteady

lemma ids_changed {v v' : ChatVault} {f : Chat → Chat} {reply : Except StoreError Bool}
    (h : ChatVault.Changed v id f reply v') (hf : ∀ c, (f c).id = c.id) :
    v'.memory.ids = v.memory.ids := by
  cases h with
  | made => exact Ledger.ids_modify hf
  | absent => rfl
  | refused => rfl

/-- A reply is deleted. -/
lemma discarded (h : w.Books shown making rounds deleted) {reply : Except StoreError Bool}
    (hperform : w.performChat (.deleteMessage id) = (reply, w'))
    (hsent : ∀ r ∈ rounds, r.sent.id ≠ id) :
    w'.Books (Function.update shown id none) making rounds deleted := by
  have hsteady := performChat_steady hperform
  have hchanged := ChatVault.changed_delete w.chats w.draw.1 id
  unfold performChat at hperform
  cases hperform
  exact h.revise hsteady (ids_changed hchanged fun _ => rfl)
    (h.tells.deleted h.apart hsent h.obliging.writable hchanged)

/-- A reply is written, if it is still there. -/
lemma saved (h : w.Books shown making rounds deleted) {content : String} {found : Bool}
    (hperform : w.performChat (.updateMessage id content) = (.ok found, w'))
    (hsent : ∀ r ∈ rounds, r.sent.id ≠ id) :
    w'.Books (Function.update shown id (if found then some content else none)) making rounds
      deleted := by
  have hsteady := performChat_steady hperform
  have hchanged := ChatVault.changed_update w.chats w.draw.1 id content
  unfold performChat at hperform
  obtain ⟨hreply, rfl⟩ := Prod.mk.inj hperform
  have hdone : (w.chats.perform w.draw.1 (.updateMessage id content)).1 = .ok found := hreply
  rw [hdone] at hchanged
  exact h.revise hsteady (ids_changed hchanged fun _ => rfl)
    (h.tells.updated h.apart hsent hchanged)

end Books

end World

end Parley
