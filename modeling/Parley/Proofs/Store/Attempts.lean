import Mathlib.Tactic.Lemma
import Parley.Stamp
import Parley.Store.Vault

/-!
# Calls while writes fail

An `Attempt` is a call together with the fault that a write meets during it, if any. The state of a
store is `Durable` where a call that fails might as well not have been made, and where a vault that
is opened from the slot is the one there is. Every state that attempts lead to from an empty slot is
one (`StoreKind.Lawful.durable`).
-/

namespace Parley

lemma Slot.write_unrefused {s : Slot} (hrefusal : s.refusal = none) (hentry : s.entry ≠ .folder)
    (text : String) :
    s.write text = .ok { s with entry := .file text, hasParent := true } := by
  unfold write
  split
  · simp_all
  · contradiction
  · rfl

/-- A vault on a disk that refuses to write, or that does not. -/
def Vault.facing {σ : Type} (v : Vault σ) (refusal : Option StoreError) : Vault σ :=
  { v with slot := { v.slot with refusal } }

/-- A call, with the fault that a write meets during it. -/
structure Attempt (Q : Type) where
  call : Q
  stamp : Stamp
  fault : Option StoreError := none

/-- A kind of store: what it holds, the calls it takes, and what it does about them. -/
structure StoreKind (σ Q : Type) (R : Q → Type) where
  empty : σ
  text : σ → String
  decide : σ → Stamp → (c : Q) → Decision σ (R c)
  perform : Vault σ → Stamp → (c : Q) → Except StoreError (R c) × Vault σ
  /-- The slot is opened as the vault. -/
  Opens : Slot → Vault σ → Prop
  /-- The call is refused for what it asks. -/
  Refuses : σ → Q → StoreError → Prop
  /-- The reply that says that something is not there, for calls that have one. -/
  absent? : (c : Q) → Option (R c)
  writes : Q → Bool

namespace StoreKind

variable {σ Q : Type} {R : Q → Type}

/-- The reply to a call and the vault after it. The fault is gone then. -/
def attempt (K : StoreKind σ Q R) (v : Vault σ) (a : Attempt Q) :
    Except StoreError (R a.call) × Vault σ :=
  let (reply, w) := K.perform (v.facing a.fault) a.stamp a.call
  (reply, w.facing v.slot.refusal)

/-- The replies to calls, one after the other, and the vault after the last. -/
def attemptAll (K : StoreKind σ Q R) (v : Vault σ) :
    List (Attempt Q) → List ((c : Q) × Except StoreError (R c)) × Vault σ
  | [] => ([], v)
  | a :: as =>
    let (reply, v) := K.attempt v a
    let (replies, v) := K.attemptAll v as
    (⟨a.call, reply⟩ :: replies, v)

/-- What callers may rely on in a state of a store, whatever fails. -/
structure Durable (K : StoreKind σ Q R) (v : Vault σ) : Prop where
  /-- What is to be kept is kept if it can be written. -/
  saved {a : Attempt Q} {reply : R a.call} {next : σ}
    (hdecide : K.decide v.memory a.stamp a.call = .ok (reply, some next))
    (hfault : a.fault = none) : ∃ slot, K.attempt v a = (.ok reply, ⟨next, slot⟩)
  /-- A call with something to keep that cannot be written fails. -/
  unsaved {a : Attempt Q} {reply : R a.call} {next : σ} {e : StoreError}
    (hdecide : K.decide v.memory a.stamp a.call = .ok (reply, some next))
    (hfault : a.fault = some e) : K.attempt v a = (.error e, v)
  /-- While nothing can be written, no call says that it changed something. -/
  honest {a : Attempt Q} {reply : R a.call} {w : Vault σ} {e : StoreError}
    (hfault : a.fault = some e) (h : K.attempt v a = (.ok reply, w)) :
    K.writes a.call = false ∨ K.absent? a.call = some reply
  /-- After a call that failed, everything is as if it had not been made. -/
  forgotten {a : Attempt Q} {e : StoreError} {w : Vault σ} (h : K.attempt v a = (.error e, w))
    (later : List (Attempt Q)) : w = v ∧ K.attemptAll v (a :: later) =
      (⟨a.call, .error e⟩ :: (K.attemptAll v later).1, (K.attemptAll v later).2)
  /-- A call that is refused changes nothing, neither in memory nor in the slot. -/
  refused {a : Attempt Q} {e : StoreError} (h : K.Refuses v.memory a.call e) :
    K.attempt v a = (.error e, v)
  /-- Nor does one for something that is not there. -/
  missed {a : Attempt Q} {reply : R a.call} {w : Vault σ} (h : K.attempt v a = (.ok reply, w))
    (habsent : K.absent? a.call = some reply) : w = v
  /-- A vault opened from the slot is the one there is. -/
  reopened : K.Opens v.slot v

/-- How a kind of store has to be made. `Fit` is what all it ever holds is like, if all calls are
`Timely`. -/
structure Lawful (K : StoreKind σ Q R) (Fit : σ → Prop) (Timely : Stamp → Q → Prop) : Prop where
  perform_eq (v : Vault σ) (stamp : Stamp) (c : Q) :
    K.perform v stamp c = v.carryOut K.text (K.decide v.memory stamp c)
  refuses {m : σ} {c : Q} {e : StoreError} (stamp : Stamp) (h : K.Refuses m c e) :
    K.decide m stamp c = .error e
  unchanged {m : σ} {stamp : Stamp} {c : Q} {reply : R c} {next : Option σ}
    (h : K.decide m stamp c = .ok (reply, next)) (habsent : K.absent? c = some reply) :
    next = none
  changing {m : σ} {stamp : Stamp} {c : Q} {reply : R c}
    (h : K.decide m stamp c = .ok (reply, none)) :
    K.writes c = false ∨ K.absent? c = some reply
  fit_empty : Fit K.empty
  fit_next {m next : σ} {stamp : Stamp} {c : Q} {reply : R c} (hfit : Fit m)
    (htimely : Timely stamp c) (h : K.decide m stamp c = .ok (reply, some next)) : Fit next
  opens_empty {slot : Slot} (h : slot.entry = .absent) : K.Opens slot ⟨K.empty, slot⟩
  opens_text {m : σ} {slot : Slot} (hfit : Fit m) (h : slot.entry = .file (K.text m)) :
    K.Opens slot ⟨m, slot⟩

/-- How an attempt comes out, by the reply and the vault after it. -/
inductive Outcome (K : StoreKind σ Q R) (v : Vault σ) (a : Attempt Q) :
    Except StoreError (R a.call) → Vault σ → Prop
  | refused {e : StoreError} (hdecide : K.decide v.memory a.stamp a.call = .error e) :
    Outcome K v a (.error e) v
  | answered {reply : R a.call} (hdecide : K.decide v.memory a.stamp a.call = .ok (reply, none)) :
    Outcome K v a (.ok reply) v
  | unsaved {reply : R a.call} {next : σ} {e : StoreError}
    (hdecide : K.decide v.memory a.stamp a.call = .ok (reply, some next))
    (hfault : a.fault = some e) : Outcome K v a (.error e) v
  | saved {reply : R a.call} {next : σ}
    (hdecide : K.decide v.memory a.stamp a.call = .ok (reply, some next))
    (hfault : a.fault = none) : Outcome K v a (.ok reply)
      ⟨next, { v.slot with entry := .file (K.text next), hasParent := true }⟩

/-- What is in memory is in the slot, which may be empty as long as nothing is in memory. -/
structure Stored (K : StoreKind σ Q R) (Fit : σ → Prop) (v : Vault σ) : Prop where
  fit : Fit v.memory
  slot : v.slot.entry = .file (K.text v.memory) ∨ v.slot.entry = .absent ∧ v.memory = K.empty

namespace Lawful

variable {K : StoreKind σ Q R} {Fit : σ → Prop} {Timely : Stamp → Q → Prop} {v w : Vault σ}
  {a : Attempt Q} {reply : R a.call} {next : σ} {e : StoreError}

lemma attempt_of_carryOut (hK : K.Lawful Fit Timely) {d : Decision σ (R a.call)}
    {answer : Except StoreError (R a.call)} (hdecide : K.decide v.memory a.stamp a.call = d)
    (hcarry : (v.facing a.fault).carryOut K.text d = (answer, w)) :
    K.attempt v a = (answer, w.facing v.slot.refusal) := by
  have hperform : K.perform (v.facing a.fault) a.stamp a.call = (answer, w) := by
    rw [hK.perform_eq, ← hcarry, ← hdecide]
    rfl
  rw [attempt, hperform]

lemma attempt_error (hK : K.Lawful Fit Timely)
    (hdecide : K.decide v.memory a.stamp a.call = .error e) : K.attempt v a = (.error e, v) :=
  hK.attempt_of_carryOut (w := v.facing a.fault) hdecide rfl

lemma attempt_answered (hK : K.Lawful Fit Timely)
    (hdecide : K.decide v.memory a.stamp a.call = .ok (reply, none)) :
    K.attempt v a = (.ok reply, v) :=
  hK.attempt_of_carryOut (w := v.facing a.fault) hdecide rfl

lemma attempt_unsaved (hK : K.Lawful Fit Timely)
    (hdecide : K.decide v.memory a.stamp a.call = .ok (reply, some next))
    (hfault : a.fault = some e) : K.attempt v a = (.error e, v) := by
  have hcarry : (v.facing a.fault).carryOut K.text (.ok (reply, some next)) =
      (.error e, v.facing a.fault) := by
    rw [hfault]
    rfl
  exact hK.attempt_of_carryOut (w := v.facing a.fault) hdecide hcarry

lemma attempt_saved (hK : K.Lawful Fit Timely) (hv : K.Stored Fit v)
    (hdecide : K.decide v.memory a.stamp a.call = .ok (reply, some next))
    (hfault : a.fault = none) :
    K.attempt v a = (.ok reply,
      ⟨next, { v.slot with entry := .file (K.text next), hasParent := true }⟩) := by
  have hentry : (v.facing a.fault).slot.entry ≠ .folder := by
    change v.slot.entry ≠ .folder
    obtain hentry | ⟨hentry, -⟩ := hv.slot <;> rw [hentry] <;> exact nofun
  let slot : Slot :=
    { (v.facing a.fault).slot with entry := .file (K.text next), hasParent := true }
  have hcarry : (v.facing a.fault).carryOut K.text (.ok (reply, some next)) =
      (.ok reply, ⟨next, slot⟩) := by
    rw [Vault.carryOut, Vault.save, Slot.write_unrefused hfault hentry]
    rfl
  exact hK.attempt_of_carryOut hdecide hcarry

theorem outcome (hK : K.Lawful Fit Timely) (hv : K.Stored Fit v)
    {answer : Except StoreError (R a.call)} (h : K.attempt v a = (answer, w)) :
    K.Outcome v a answer w := by
  cases hdecide : K.decide v.memory a.stamp a.call with
  | error e =>
    cases (hK.attempt_error hdecide).symm.trans h
    exact .refused hdecide
  | ok decision =>
    obtain ⟨reply, next⟩ := decision
    cases next with
    | none =>
      cases (hK.attempt_answered hdecide).symm.trans h
      exact .answered hdecide
    | some next =>
      cases hfault : a.fault with
      | some e =>
        cases (hK.attempt_unsaved hdecide hfault).symm.trans h
        exact .unsaved hdecide hfault
      | none =>
        cases (hK.attempt_saved hv hdecide hfault).symm.trans h
        exact .saved hdecide hfault

lemma attempt_failed (hK : K.Lawful Fit Timely) (hv : K.Stored Fit v)
    (h : K.attempt v a = (.error e, w)) : w = v := by
  cases hK.outcome hv h <;> rfl

lemma stored_attempt (hK : K.Lawful Fit Timely) (hv : K.Stored Fit v)
    (htimely : Timely a.stamp a.call) {answer : Except StoreError (R a.call)}
    (h : K.attempt v a = (answer, w)) : K.Stored Fit w := by
  cases hK.outcome hv h with
  | saved hdecide => exact ⟨hK.fit_next hv.fit htimely hdecide, .inl rfl⟩
  | _ => exact hv

lemma stored_attemptAll (hK : K.Lawful Fit Timely) {as : List (Attempt Q)}
    (hv : K.Stored Fit v) (htimely : ∀ a ∈ as, Timely a.stamp a.call) :
    K.Stored Fit (K.attemptAll v as).2 := by
  induction as generalizing v with
  | nil => exact hv
  | cons a as ih =>
    obtain ⟨ha, has⟩ := List.forall_mem_cons.1 htimely
    exact ih (hK.stored_attempt hv ha rfl) has

lemma durable_of_stored (hK : K.Lawful Fit Timely) (hv : K.Stored Fit v) : K.Durable v where
  saved hdecide hfault := ⟨_, hK.attempt_saved hv hdecide hfault⟩
  unsaved hdecide hfault := hK.attempt_unsaved hdecide hfault
  honest hfault h := by
    cases hK.outcome hv h with
    | answered hdecide => exact hK.changing hdecide
    | saved _ hnone => cases hfault.symm.trans hnone
  forgotten h later := by
    cases hK.attempt_failed hv h
    rw [attemptAll, h]
    exact ⟨rfl, rfl⟩
  refused h := hK.attempt_error (hK.refuses _ h)
  missed h habsent := by
    cases hK.outcome hv h with
    | answered => rfl
    | saved hdecide => cases hK.unchanged hdecide habsent
  reopened := by
    obtain hentry | ⟨hentry, hempty⟩ := hv.slot
    · exact hK.opens_text hv.fit hentry
    · have hopens := hK.opens_empty hentry
      rw [← hempty] at hopens
      exact hopens

/-- Every state that attempts lead to from an empty slot is durable. -/
theorem durable (hK : K.Lawful Fit Timely) {slot : Slot} (habsent : slot.entry = .absent)
    {as : List (Attempt Q)} (htimely : ∀ a ∈ as, Timely a.stamp a.call) :
    K.Durable (K.attemptAll ⟨K.empty, slot⟩ as).2 :=
  hK.durable_of_stored (hK.stored_attemptAll ⟨hK.fit_empty, .inr ⟨habsent, rfl⟩⟩ htimely)

end Lawful

end StoreKind

end Parley
