import Mathlib.Data.List.DropRight
import Parley.Proofs.Agent.WellFormed
import Parley.Proofs.Store.Durable
import Parley.Proofs.Store.Vault

/-!
# Agents that are saved

An agent that can be run, under a trimmed name, is `Sound`. A store that is only given such agents
holds such agents only, in memory and in its slot, and so does a store that is opened from that slot
(`AgentVault.Sound`).
-/

namespace Parley

namespace Text

lemma Chars.trimStart_trim (cs : List Char) : trimStart (trim cs) = trim cs := by
  have hfront : trim cs <+: trimStart cs := List.rdropWhile_prefix (p := isBlank) (trimStart cs)
  obtain ⟨rest, hrest⟩ := hfront
  cases htrim : trim cs with
  | nil => rfl
  | cons c ds =>
    rw [htrim] at hrest
    have hkept : trimStart (c :: (ds ++ rest)) = c :: (ds ++ rest) := by
      rw [← List.cons_append, hrest]
      exact List.dropWhile_idempotent isBlank cs
    have hc : ¬isBlank c := by
      simpa using (List.dropWhile_eq_self_iff.1 hkept) (by simp)
    exact List.dropWhile_cons_of_neg hc

lemma trim_trim (s : String) : trim (trim s) = trim s := by
  have htwice : Chars.trim (Chars.trim s.toList) = Chars.trim s.toList := by
    rw [Chars.trim, Chars.trimStart_trim]
    exact List.rdropWhile_idempotent isBlank (Chars.trimStart s.toList)
  rw [trim, trim, String.toList_ofList, htwice]

lemma trimmed?_trimmed {s t : String} (h : trimmed? s = some t) : trimmed? t = some t := by
  obtain ⟨rfl, hne⟩ := trimmed?_eq_some_iff.1 h
  exact trimmed?_eq_some_iff.2 ⟨(trim_trim s).symm, hne⟩

end Text

/-- An agent can be run, and its name is trimmed and not blank. -/
structure Agent.Sound (a : Agent) : Prop where
  plan : ∃ plan, Plan.ofAgent a = .ok plan
  named : Text.trimmed? a.name = some a.name

/-- Whether an agent can be run is a matter of its steps. -/
lemma Plan.ofAgent_of_steps {a b : Agent} {plan : Plan} (h : Plan.ofAgent a = .ok plan)
    (hsteps : b.steps = a.steps) : ∃ plan, Plan.ofAgent b = .ok plan := by
  rw [ofAgent] at h ⊢
  rw [hsteps]
  cases hfound : ofSteps [] 1 a.steps with
  | error e =>
    rw [hfound] at h
    cases h
  | ok found => exact ⟨_, rfl⟩

lemma Agent.Sound.of_eq {a b : Agent} (h : a.Sound) (hsteps : b.steps = a.steps)
    (hname : b.name = a.name) : b.Sound := by
  obtain ⟨⟨plan, hplan⟩, hnamed⟩ := h
  exact ⟨Plan.ofAgent_of_steps hplan hsteps, by rwa [hname]⟩

namespace Roster

/-- What a store of agents holds if it was given sound agents only. -/
structure Sound (r : Roster) : Prop extends Fit r where
  agents : ∀ a ∈ r.agents, a.Sound

lemma sound_empty : Sound {} := ⟨⟨List.forall_mem_nil _, List.nodup_nil⟩, List.forall_mem_nil _⟩

end Roster

namespace AgentCall

/-- The agent that comes with a call is sound, and all times are proper ones. -/
structure Brings (stamp : Stamp) (c : AgentCall) : Prop where
  timely : c.Timely stamp
  sound : ∀ a, c = .create a ∨ c = .update a → a.Sound

/-- A call changes what is kept, by what is replied to it. -/
def tookEffect : (c : AgentCall) → Except StoreError c.Reply → Bool
  | .create _, .ok _ => true
  | .update _, .ok _ => true
  | .delete _, .ok found => found
  | _, _ => false

lemma tookEffect_error (c : AgentCall) (e : StoreError) : c.tookEffect (.error e) = false := by
  cases c <;> rfl

lemma tookEffect_absent {c : AgentCall} {reply : c.Reply} (h : c.absent? = some reply) :
    c.tookEffect (.ok reply) = false := by
  cases c <;> cases h <;> rfl

end AgentCall

/-- What a store of agents holds after a call that changes it. An agent that is replaced keeps its
identifier and the time of its making. -/
inductive Roster.After (r : Roster) (stamp : Stamp) : AgentCall → Roster → Prop
  | created {a : Agent} (h : a.id ∉ r.ids) : After r stamp (.create a) (r.insert a)
  | replaced {a old : Agent} (h : r.find? a.id = some old) : After r stamp (.update a)
    (r.replace { a with createdAt := old.createdAt, updatedAt := stamp.time })
  | deleted {id : Id} (h : id ∈ r.ids) : After r stamp (.delete id) (r.erase id)

namespace Roster

variable {r next : Roster} {stamp : Stamp} {c : AgentCall}

lemma after_of_decide {reply : c.Reply} (h : r.decide stamp c = .ok (reply, some next)) :
    c.tookEffect (.ok reply) ∧ r.After stamp c next := by
  cases c with
  | create a =>
    simp only [decide] at h
    split_ifs at h with hthere
    cases h
    exact ⟨rfl, .created (mt contains_iff.2 hthere)⟩
  | update a =>
    simp only [decide] at h
    split at h <;> cases h
    next old hold => exact ⟨rfl, .replaced hold⟩
  | delete id =>
    simp only [decide] at h
    split_ifs at h with hthere <;> cases h
    exact ⟨rfl, .deleted (contains_iff.1 hthere)⟩
  | _ => cases h

lemma no_effect_of_decide {reply : c.Reply} (h : r.decide stamp c = .ok (reply, none)) :
    c.tookEffect (.ok reply) = false := by
  cases c with
  | create a =>
    simp only [decide] at h
    split_ifs at h
    cases h
  | update a =>
    simp only [decide] at h
    split at h <;> cases h
  | delete id =>
    simp only [decide] at h
    split_ifs at h <;> cases h
    rfl
  | _ => rfl

lemma After.sound (h : r.After stamp c next) (hr : r.Sound) (hc : c.Brings stamp) :
    next.Sound := by
  cases h with
  | created hnew =>
    refine ⟨hr.insert hc.timely hnew, List.forall_mem_append.2 ⟨hr.agents, ?_⟩⟩
    exact List.forall_mem_singleton.2 (hc.sound _ (.inl rfl))
  | @replaced a old hold =>
    refine ⟨hr.replace ⟨(hr.timely old (List.mem_of_find?_eq_some hold)).1, hc.timely⟩, ?_⟩
    intro b hb
    obtain ⟨b, hmem, rfl⟩ := List.mem_map.1 hb
    split_ifs
    · exact (hc.sound a (.inr rfl)).of_eq rfl rfl
    · exact hr.agents b hmem
  | deleted => exact ⟨hr.erase _, fun a ha => hr.agents a (List.mem_of_mem_filter ha)⟩

/-- The agents that there are, each with the time of its making. -/
def origins (r : Roster) : List (Id × Timestamp) := r.agents.map fun a => (a.id, a.createdAt)

lemma origins_replace {a old : Agent} (hr : r.Fit) (h : r.find? a.id = some old)
    (hcreated : a.createdAt = old.createdAt) : (r.replace a).origins = r.origins := by
  rw [origins, origins, replace, List.map_map]
  refine List.map_congr_left fun b hb => ?_
  rw [Function.comp_apply]
  split_ifs with hid
  · have hold := List.find?_some h
    obtain rfl : b = old := by
      refine List.inj_on_of_nodup_map hr.ids hb (List.mem_of_find?_eq_some h) ?_
      exact hid.trans (of_decide_eq_true hold).symm
    rw [hcreated, hid]
  · rfl

end Roster

namespace AgentVault

/-- A store in which every agent is sound, in memory and in its slot. -/
structure Sound (v : AgentVault) : Prop where
  memory : v.memory.Sound
  slot : ∀ text, v.slot.entry = .file text → ∃ r : Roster, r.Sound ∧ text = r.text

variable {v v' : AgentVault} {stamp : Stamp} {c : AgentCall} {reply : Except StoreError c.Reply}

/-- A call has no effect, or what it makes of the agents is in memory and in the slot. -/
theorem perform_cases (h : v.perform stamp c = (reply, v')) :
    (c.tookEffect reply = false ∧ v' = v) ∨
      (c.tookEffect reply ∧ v.memory.After stamp c v'.memory ∧
        v'.slot.text? = some v'.memory.text) := by
  cases Vault.carryOut_carriedOut h with
  | refused => exact .inl ⟨c.tookEffect_error _, rfl⟩
  | answered hdecide => exact .inl ⟨Roster.no_effect_of_decide hdecide, rfl⟩
  | unsaved => exact .inl ⟨c.tookEffect_error _, rfl⟩
  | saved hdecide hslot =>
    obtain ⟨heffect, hafter⟩ := Roster.after_of_decide hdecide
    exact .inr ⟨heffect, hafter, (Slot.write_ok hslot).1⟩

theorem perform_sound (h : v.perform stamp c = (reply, v')) (hv : v.Sound)
    (hc : c.Brings stamp) : v'.Sound := by
  obtain ⟨-, rfl⟩ | ⟨-, hafter, hslot⟩ := perform_cases h
  · exact hv
  · have hmemory := hafter.sound hv.memory hc
    refine ⟨hmemory, fun text htext => ⟨_, hmemory, ?_⟩⟩
    rw [Slot.text?, htext] at hslot
    exact Option.some.inj hslot

/-- An agent that is found is one of the store. -/
lemma perform_get {id : Id} {a : Agent} (h : v.perform stamp (.get id) = (.ok (some a), v')) :
    a ∈ v.memory.agents := by
  have hfound : v.memory.find? id = some a := Except.ok.inj (Prod.mk.inj h).1
  exact List.mem_of_find?_eq_some hfound

/-- A store that is opened from the slot of a sound one is sound. -/
theorem openSlot_sound {stamps stamps' : Stamps} (hv : v.Sound)
    (h : (openSlot v.slot).run stamps = (.ok v', stamps')) : v'.Sound ∧ stamps' = stamps := by
  cases hentry : v.slot.entry with
  | absent =>
    rw [openSlot_absent hentry] at h
    cases h
    exact ⟨⟨Roster.sound_empty, hv.slot⟩, rfl⟩
  | file text =>
    obtain ⟨r, hr, rfl⟩ := hv.slot text hentry
    rw [openSlot_file hr.toFit hentry] at h
    cases h
    exact ⟨⟨hr, hv.slot⟩, rfl⟩
  | folder =>
    rw [openSlot, Slot.read, hentry] at h
    cases h

end AgentVault

end Parley
