import Mathlib.Tactic.Lemma
import Mathlib.Tactic.SplitIfs
import Parley.Chat.Ledger

/-!
# What calls do to a ledger

`Ledger.Carried` says what a call leaves of a ledger, by the reply to it: a call that fails leaves
it as it was, and so does one that is told that something is not there.
-/

namespace Parley

/-- The call changes what is kept, if it succeeds. -/
def ChatCall.writes : ChatCall → Bool
  | .get _ => false
  | .list => false
  | .settings => false
  | _ => true

namespace Ledger

variable {l l' : Ledger} {stamp : Stamp} {c : Chat} {id : Id}

lemma contains_eq_false_iff : l.contains id = false ↔ ∀ c ∈ l.chats, c.id ≠ id := by
  simp [contains]

lemma find?_id (h : l.find? id = some c) : c.id = id := by
  have hid := List.find?_some h
  simpa using hid

lemma erase_insert (h : l.contains c.id = false) : (l.insert c).erase c.id = l := by
  have hrest : l.chats.filter (·.id ≠ c.id) = l.chats :=
    List.filter_eq_self.2 fun d hd => decide_eq_true (contains_eq_false_iff.1 h d hd)
  rw [erase, insert, List.filter_append, hrest, List.filter_cons_of_neg (by simp),
    List.filter_nil, List.append_nil]

lemma modify_insert (h : l.contains c.id = false) (f : Chat → Chat) :
    (l.insert c).modify c.id f = l.insert (f c) := by
  have hrest : l.chats.map (fun d => if d.id = c.id then f d else d) = l.chats :=
    List.map_congr_left (g := id) (fun d hd => if_neg (contains_eq_false_iff.1 h d hd)) ▸
      List.map_id _
  simp [modify, insert, hrest]

lemma modify_modify {f : Chat → Chat} (hf : ∀ c, (f c).id = c.id) (g : Chat → Chat) :
    (l.modify id f).modify id g = l.modify id fun c => g (f c) := by
  simp only [modify, List.map_map]
  congr 1
  refine List.map_congr_left fun c _ => ?_
  by_cases h : c.id = id <;> simp [h, hf]

/-- What a call leaves of a ledger, by the reply to it. -/
inductive Carried (l : Ledger) (stamp : Stamp) (c : ChatCall) :
    Except StoreError c.Reply → Ledger → Prop
  | failed (e : StoreError) : Carried l stamp c (.error e) l
  | missed {reply : c.Reply} (h : c.absent? = some reply) : Carried l stamp c (.ok reply) l
  | done {reply : c.Reply} {next : Option Ledger} (h : l.decide stamp c = .ok (reply, next)) :
    Carried l stamp c (.ok reply) (next.getD l)

namespace Carried

lemma failure {c : ChatCall} {e : StoreError} (h : l.Carried stamp c (.error e) l') : l' = l := by
  cases h
  rfl

lemma query {c : ChatCall} {reply : Except StoreError c.Reply} (hc : c.writes = false)
    (h : l.Carried stamp c reply l') : l' = l := by
  cases h with
  | done h => cases c <;> cases hc <;> cases h <;> rfl
  | _ => rfl

lemma create {made : Chat} (h : l.Carried stamp (.create c) (.ok made) l') :
    made = c ∧ l.contains c.id = false ∧ l' = l.insert c := by
  cases h with
  | missed h => cases h
  | done h =>
    simp only [decide] at h
    split_ifs at h with hthere
    cases h
    exact ⟨rfl, Bool.eq_false_iff.2 hthere, rfl⟩

lemma get (h : l.Carried stamp (.get id) (.ok (some c)) l') : l.find? id = some c := by
  cases h with
  | missed h => cases h
  | done h =>
    obtain ⟨h, -⟩ := Prod.mk.inj (Except.ok.inj h)
    exact h

lemma settings {shared : GlobalSettings} (h : l.Carried stamp .settings (.ok shared) l') :
    shared = l.settings := by
  cases h with
  | missed h => cases h
  | done h =>
    obtain ⟨h, -⟩ := Prod.mk.inj (Except.ok.inj h)
    exact h.symm

lemma delete (h : l.Carried stamp (.delete id) (.ok true) l') : l' = l.erase id := by
  cases h with
  | missed h => cases h
  | done h =>
    simp only [decide] at h
    split_ifs at h <;> cases h
    rfl

lemma undeleted {reply : Except StoreError (ChatCall.delete id).Reply}
    (h : l.Carried stamp (.delete id) reply l')
    (hreply : reply ≠ .ok true) : l' = l := by
  cases h with
  | done h =>
    simp only [decide] at h
    split_ifs at h <;> cases h
    · exact absurd rfl hreply
    · rfl
  | _ => rfl

lemma addMessage {sender : Sender} {content : String} {m : Message}
    (h : l.Carried stamp (.addMessage id sender content) (.ok m) l') :
    m = .new stamp id sender content ∧ l.contains id ∧
      l' = l.modify id (·.addMessage m stamp.time) := by
  cases h with
  | missed h => cases h
  | done h =>
    simp only [decide] at h
    split_ifs at h with hthere
    cases h
    exact ⟨rfl, hthere, rfl⟩

end Carried

end Ledger

lemma Vault.save_memory {σ : Type} {text : σ → String} {v v' : Vault σ} {next : σ}
    (h : v.save text next = .ok v') : v'.memory = next := by
  unfold save at h
  cases hslot : v.slot.write (text next) with
  | error e =>
    rw [hslot] at h
    cases h
  | ok slot =>
    rw [hslot] at h
    cases h
    rfl

/-- What is done about a call is what its reply says. -/
theorem ChatVault.perform_carried {v v' : ChatVault} {stamp : Stamp} {c : ChatCall}
    {reply : Except StoreError c.Reply} (h : v.perform stamp c = (reply, v')) :
    v.memory.Carried stamp c reply v'.memory := by
  unfold perform at h
  cases hdecide : v.memory.decide stamp c with
  | error e =>
    rw [hdecide] at h
    cases h
    exact .failed e
  | ok decision =>
    obtain ⟨answer, next⟩ := decision
    cases next with
    | none =>
      rw [hdecide] at h
      cases h
      exact .done hdecide
    | some next =>
      rw [hdecide, Vault.carryOut] at h
      split at h
      · next hsave =>
        cases h
        rw [Vault.save_memory hsave]
        exact .done hdecide
      · cases h
        exact .failed _

end Parley
