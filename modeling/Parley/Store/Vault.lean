import Parley.Store.Slot

/-!
# Vaults

A vault keeps what it holds in memory and in a slot. A change is first written to the slot, and
taken over in memory only if that succeeds; so a change that fails leaves no trace.
-/

namespace Parley

structure Vault (σ : Type) where
  memory : σ
  slot : Slot

/-- The outcome of a call: a reply and, if something changes, what is to be kept from then on. -/
abbrev Decision (σ ρ : Type) := Except StoreError (ρ × Option σ)

namespace Vault

variable {σ ρ : Type}

def save (text : σ → String) (v : Vault σ) (next : σ) : Except StoreError (Vault σ) :=
  (v.slot.write (text next)).map fun slot => ⟨next, slot⟩

/-- Carries out a decision. -/
def carryOut (text : σ → String) (v : Vault σ) : Decision σ ρ → Except StoreError ρ × Vault σ
  | .error e => (.error e, v)
  | .ok (reply, none) => (.ok reply, v)
  | .ok (reply, some next) =>
    match v.save text next with
    | .ok v => (.ok reply, v)
    | .error e => (.error e, v)

end Vault

end Parley
