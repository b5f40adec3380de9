import Mathlib.Tactic.Lemma
import Parley.Store.Vault

/-!
# Decisions carried out

A decision is carried out in one of four ways (`Vault.CarriedOut`): it may be an error already,
there may be nothing to keep, and what is to be kept may or may not get into the slot. Only in the
last case anything changes, and then the slot holds the text of what is in memory.
-/

namespace Parley.Vault

variable {σ ρ : Type}

/-- How a decision is carried out in a vault, by the reply and the vault after it. -/
inductive CarriedOut (text : σ → String) (v : Vault σ) (d : Decision σ ρ) :
    Except StoreError ρ → Vault σ → Prop
  | refused {e : StoreError} (h : d = .error e) : CarriedOut text v d (.error e) v
  | answered {reply : ρ} (h : d = .ok (reply, none)) : CarriedOut text v d (.ok reply) v
  | unsaved {reply : ρ} {next : σ} {e : StoreError} (h : d = .ok (reply, some next))
    (hslot : v.slot.write (text next) = .error e) : CarriedOut text v d (.error e) v
  | saved {reply : ρ} {next : σ} {slot : Slot} (h : d = .ok (reply, some next))
    (hslot : v.slot.write (text next) = .ok slot) : CarriedOut text v d (.ok reply) ⟨next, slot⟩

theorem carryOut_carriedOut {text : σ → String} {v v' : Vault σ} {d : Decision σ ρ}
    {reply : Except StoreError ρ} (h : v.carryOut text d = (reply, v')) :
    CarriedOut text v d reply v' := by
  cases d with
  | error e =>
    cases h
    exact .refused rfl
  | ok decision =>
    obtain ⟨answer, next⟩ := decision
    cases next with
    | none =>
      cases h
      exact .answered rfl
    | some next =>
      rw [carryOut, save] at h
      cases hslot : v.slot.write (text next) with
      | error e =>
        rw [hslot] at h
        cases h
        exact .unsaved rfl hslot
      | ok slot =>
        rw [hslot] at h
        cases h
        exact .saved rfl hslot

end Parley.Vault
