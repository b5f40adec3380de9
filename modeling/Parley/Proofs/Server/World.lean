import Parley.Proofs.Chat.Content
import Parley.Server.World

/-!
# Time, store calls and messages

What a world does by itself while time passes, and what it does when a message is written or
deleted, touches the messages that are meant and no others (`Spares`). A store that deletes what it
is asked to delete is `Sound` for a message, and stays so.
-/

namespace Parley.World

/-- A change of the world that touches some messages at most, and calls nothing off. -/
structure Spares (ids : List Id) (w w' : World) : Prop where
  chats : w.chats.Spares ids w'.chats
  cleanups : ∀ c ∈ w'.cleanups, c ∈ w.cleanups
  cancelAt : w'.cancelAt = w.cancelAt
  trouble : w'.trouble = w.trouble

variable {ids : List Id} {w w' w'' : World}

lemma Spares.refl (ids : List Id) (w : World) : Spares ids w w :=
  ⟨.refl ids w.chats, fun _ h => h, rfl, rfl⟩

lemma Spares.trans (h : Spares ids w w') (h' : Spares ids w' w'') : Spares ids w w'' :=
  ⟨h.chats.trans h'.chats, fun c hc => h.cleanups c (h'.cleanups c hc),
    h'.cancelAt.trans h.cancelAt, h'.trouble.trans h.trouble⟩

lemma performChat_spares (w : World) {c : ChatCall} {id : Id} (hc : c.messageId? = some id)
    (hid : id ∈ ids) : Spares ids w (w.performChat c).2 :=
  ⟨ChatVault.perform_spares hc hid .., fun _ h => h, rfl, rfl⟩

lemma tidy_spares (w : World) {c : Cleanup} (hc : c.messageId ∈ ids) : Spares ids w (w.tidy c) := by
  unfold tidy
  split
  · exact .refl ids w
  · exact w.performChat_spares rfl hc

lemma tidy_cutoff (w : World) (c : Cleanup) : (w.tidy c).cutoff = w.cutoff := by
  unfold tidy
  split <;> rfl

lemma tidyAll_spares (w : World) {cs : List Cleanup} (hcs : ∀ c ∈ cs, c.messageId ∈ ids) :
    Spares ids w (cs.foldl tidy w) := by
  induction cs generalizing w with
  | nil => exact .refl ids w
  | cons c cs ih =>
    rw [List.forall_mem_cons] at hcs
    exact (w.tidy_spares hcs.1).trans (ih (w.tidy c) hcs.2)

lemma tidyAll_cutoff (w : World) (cs : List Cleanup) : (cs.foldl tidy w).cutoff = w.cutoff := by
  induction cs generalizing w with
  | nil => rfl
  | cons c cs ih => exact (ih (w.tidy c)).trans (w.tidy_cutoff c)

/-- The world when the clock shows a later time and nothing of what is due then was done yet. -/
def setClock (w : World) (t : Nat) : World :=
  { w with now := max w.now t, cleanups := w.cleanups.filter fun c => !(c.due ≤ t) }

def dueBy (w : World) (t : Nat) : List Cleanup :=
  (w.cleanups.filter (·.due ≤ t)).mergeSort fun a b => a.due ≤ b.due

lemma advance_eq (w : World) (t : Nat) : w.advance t = (w.dueBy t).foldl tidy (w.setClock t) := rfl

lemma mem_dueBy {t : Nat} {c : Cleanup} : c ∈ w.dueBy t ↔ c ∈ w.cleanups ∧ c.due ≤ t := by
  simp [dueBy, List.mem_mergeSort]

theorem advance_spares (hw : ∀ c ∈ w.cleanups, c.messageId ∈ ids) (t : Nat) :
    Spares ids w (w.advance t) := by
  have hclock : Spares ids w (w.setClock t) :=
    ⟨.refl ids w.chats, fun _ hc => (List.mem_filter.1 hc).1, rfl, rfl⟩
  exact hclock.trans (tidyAll_spares _ fun c hc => hw c (mem_dueBy.1 hc).1)

@[simp] lemma advance_cutoff (w : World) (t : Nat) : (w.advance t).cutoff = w.cutoff :=
  tidyAll_cutoff (w.setClock t) (w.dueBy t)

/-- A deletion that was left to be done is done when it is due. -/
theorem advance_gone {c : Cleanup} {t : Nat} (hc : c ∈ w.cleanups) (hdue : c.due ≤ t)
    (hmishap : c.mishap = none) (honce : w.chats.memory.Once c.messageId)
    (hwritable : w.chats.slot.Writable) :
    (w.advance t).chats.memory.content? c.messageId = none := by
  obtain ⟨before, after, hsplit⟩ := List.append_of_mem (mem_dueBy.2 ⟨hc, hdue⟩)
  have spares (w : World) (cs : List Cleanup) :=
    (@tidyAll_spares (cs.map (·.messageId)) w cs fun c hc => List.mem_map_of_mem hc).chats
  rw [advance_eq, hsplit, List.foldl_append, List.foldl_cons]
  refine (spares _ after).memory.gone _ ?_
  have hbefore := spares (w.setClock t) before
  rw [tidy, hmishap]
  exact ChatVault.perform_delete rfl (hbefore.memory.once _ honce) (hbefore.writable hwritable)

theorem wait_spares {t : Nat} {done : Bool} (hw : ∀ c ∈ w.cleanups, c.messageId ∈ ids)
    (h : w.wait t = (done, w')) : Spares ids w w' := by
  unfold wait at h
  split at h
  · split_ifs at h <;> cases h <;> exact advance_spares hw _
  · cases h
    exact advance_spares hw t

lemma wait_cutoff {t : Nat} {done : Bool} (h : w.wait t = (done, w')) :
    w'.cutoff = w.cutoff ∧ (w.cutoff = none → done = true) := by
  unfold wait at h
  split at h
  · split_ifs at h <;> cases h <;> simp_all
  · cases h
    simp_all

/-- What is assumed of the store of a message: it deletes what it is asked to, and does not miss the
message while it is there. The message is in one chat at most, and no other task deletes it. -/
structure Sound (id : Id) (w : World) : Prop where
  deletes : ∀ n, (w.trouble .deleteMessage).mishap n = none
  finds : ∀ n, (w.trouble .updateMessage).mishap n = some .missing →
    w.chats.memory.content? id = none
  writable : w.chats.slot.Writable
  once : w.chats.memory.Once id
  alone : ∀ c ∈ w.cleanups, c.messageId ≠ id

lemma Sound.of_spares {id : Id} (h : Sound id w) (hs : Spares ids w w') : Sound id w' where
  deletes := hs.trouble ▸ h.deletes
  finds := fun n hn => hs.chats.memory.gone id (h.finds n (hs.trouble ▸ hn))
  writable := hs.chats.writable h.writable
  once := hs.chats.memory.once id h.once
  alone := fun c hc => h.alone c (hs.cleanups c hc)

/-- A call takes some time, after which it may be lost, go wrong or be carried out. -/
lemma askChats_cases {c : ChatCall} {answer : Option (Except StoreError c.Reply)}
    (hw : ∀ c ∈ w.cleanups, c.messageId ∈ ids) (h : w.askChats c = (answer, w')) :
    ∃ w₁, Spares ids w w₁ ∧ w₁.cutoff = w.cutoff ∧
      ((answer = none ∧ w' = w₁ ∧ w.cutoff ≠ none) ∨ ∃ reply, answer = some reply ∧
        w₁.chatReply c ((w.trouble c.method).mishap (w.calls c.method + 1)) = (reply, w')) := by
  unfold askChats at h
  have hbegin : Spares ids w (w.begin c.method).2 := ⟨.refl ids w.chats, fun _ h => h, rfl, rfl⟩
  rcases hwait : (w.begin c.method).2.wait ((w.begin c.method).2.now +
    ((w.begin c.method).2.trouble c.method).delay) with ⟨done, w₁⟩
  have hcutoff := wait_cutoff hwait
  refine ⟨w₁, hbegin.trans (wait_spares hw hwait), hcutoff.1, ?_⟩
  simp only [hwait] at h
  cases done with
  | false =>
    cases h
    exact .inl ⟨rfl, rfl, fun hnone => by simpa using hcutoff.2 hnone⟩
  | true =>
    cases h
    exact .inr ⟨_, rfl, rfl⟩

lemma chatReply_spares {c : ChatCall} {id : Id} {mishap : Option Mishap}
    {reply : Except StoreError c.Reply} (h : w.chatReply c mishap = (reply, w'))
    (hc : c.messageId? = some id) (hid : id ∈ ids) : Spares ids w w' ∧ w'.cutoff = w.cutoff := by
  have hperform := w.performChat_spares hc hid
  unfold chatReply at h
  split at h
  · cases h
    exact ⟨.refl ids w, rfl⟩
  · split at h
    · cases h
      exact ⟨.refl ids w, rfl⟩
    · rw [h] at hperform
      obtain ⟨rfl, rfl⟩ := Prod.mk.inj h
      exact ⟨hperform, rfl⟩
  · rw [h] at hperform
    obtain ⟨rfl, rfl⟩ := Prod.mk.inj h
    exact ⟨hperform, rfl⟩

/-- A call that changes a message touches no other message, and is not lost where work is not broken
off. -/
theorem askChats_spares {c : ChatCall} {id : Id} {answer : Option (Except StoreError c.Reply)}
    (h : w.askChats c = (answer, w')) (hw : ∀ c ∈ w.cleanups, c.messageId ∈ ids)
    (hc : c.messageId? = some id) (hid : id ∈ ids) :
    Spares ids w w' ∧ w'.cutoff = w.cutoff ∧ (answer = none → w.cutoff ≠ none) := by
  obtain ⟨w₁, hspares, hcutoff, ⟨rfl, rfl, hlost⟩ | ⟨reply, rfl, hreply⟩⟩ := askChats_cases hw h
  · exact ⟨hspares, hcutoff, fun _ => hlost⟩
  · obtain ⟨hspares', hcutoff'⟩ := chatReply_spares hreply hc hid
    exact ⟨hspares.trans hspares', hcutoff'.trans hcutoff, nofun⟩

/-- The messages that are to be deleted in the background. -/
def doomed (w : World) : List Id := w.cleanups.map (·.messageId)

lemma mem_doomed : ∀ c ∈ w.cleanups, c.messageId ∈ w.doomed := fun _ hc => List.mem_map_of_mem hc

/-- A write that is reported is there, in memory and in the slot. -/
theorem askChats_saved {id : Id} {content : String}
    (h : w.askChats (.updateMessage id content) = (some (.ok true), w')) :
    w'.chats.memory.content? id = some content ∧
      w'.chats.slot.text? = some w'.chats.memory.text := by
  obtain ⟨w₁, -, -, ⟨hanswer, -⟩ | ⟨reply, hanswer, hreply⟩⟩ := askChats_cases mem_doomed h
  · cases hanswer
  · cases hanswer
    unfold chatReply at hreply
    split at hreply
    · cases hreply
    · cases hreply
    · obtain ⟨hdone, rfl⟩ := Prod.mk.inj hreply
      exact (ChatVault.perform_update rfl).1 hdone

/-- A store that does not miss the message says that it is not there only if that is so. -/
theorem askChats_vanished {id : Id} {content : String}
    (h : w.askChats (.updateMessage id content) = (some (.ok false), w')) (hw : Sound id w) :
    w'.chats.memory.content? id = none := by
  obtain ⟨w₁, hspares, -, ⟨hanswer, -⟩ | ⟨reply, hanswer, hreply⟩⟩ := askChats_cases mem_doomed h
  · cases hanswer
  · cases hanswer
    unfold chatReply at hreply
    split at hreply
    · cases hreply
    · next hmissing =>
      cases hreply
      exact hspares.chats.memory.gone id (hw.finds _ hmissing)
    · obtain ⟨hdone, rfl⟩ := Prod.mk.inj hreply
      exact (ChatVault.perform_update rfl).2 hdone

theorem askChats_gone {id : Id} {reply : Except StoreError Bool}
    (h : w.askChats (.deleteMessage id) = (some reply, w')) (hw : Sound id w) :
    w'.chats.memory.content? id = none := by
  obtain ⟨w₁, hspares, -, ⟨hanswer, -⟩ | ⟨reply, hanswer, hreply⟩⟩ := askChats_cases mem_doomed h
  · cases hanswer
  · have hw₁ := hw.of_spares hspares
    rw [show (w.trouble (ChatCall.deleteMessage id).method).mishap _ = none from hw.deletes _]
      at hreply
    obtain ⟨-, rfl⟩ := Prod.mk.inj hreply
    exact ChatVault.perform_delete rfl hw₁.once hw₁.writable

end Parley.World
