import Parley.Proofs.Chat.Calls
import Parley.Proofs.Server.Model

/-!
# What calls leave of an idle world

A world is idle if nothing was left to be done in the background. Then only the calls of a task
change its chats, and each of them does what its reply says (`answer_carried`).
-/

namespace Parley

/-- The call changes what is kept of the chats, if it succeeds. -/
def Call.writes : Call → Bool
  | .chats c => c.writes
  | _ => false

/-- The call looks up something that is stored. -/
def Call.isLookup : Call → Bool
  | .chats c => !c.writes
  | .agents (.get _) => true
  | _ => false

lemma Call.unwritten_of_isLookup {c : Call} (h : c.isLookup) : c.writes = false := by
  cases c with
  | chats c => simpa [isLookup, writes] using h
  | _ => rfl

namespace World

def Idle (w : World) : Prop := w.cleanups = []

variable {w w' : World}

lemma advance_idle (h : w.Idle) (t : Nat) :
    (w.advance t).chats = w.chats ∧ (w.advance t).Idle := by
  have hdue : w.cleanups = [] := h
  simp [advance, hdue, Idle]

lemma wait_idle {t : Nat} {done : Bool} (hidle : w.Idle) (h : w.wait t = (done, w')) :
    w'.chats = w.chats ∧ w'.Idle := by
  unfold wait at h
  split at h
  · split_ifs at h <;> cases h <;> exact advance_idle hidle _
  · cases h
    exact advance_idle hidle t

lemma attend_idle {α : Type} {d : Delayed (Except RunError α)} {deadline limit : Nat}
    {reply : Option (Except RunError α)} (hidle : w.Idle)
    (h : w.attend d deadline limit = (reply, w')) : w'.chats = w.chats ∧ w'.Idle := by
  unfold attend at h
  dsimp only at h
  generalize hwait : w.wait _ = found at h
  obtain ⟨done, w₁⟩ := found
  have hwaited := wait_idle hidle hwait
  cases done with
  | false =>
    cases h
    exact hwaited
  | true =>
    dsimp only at h
    split at h <;> cases h <;> exact hwaited

lemma chatReply_carried {c : ChatCall} {mishap : Option Mishap} {reply : Except StoreError c.Reply}
    (h : w.chatReply c mishap = (reply, w')) :
    w.chats.memory.Carried w.draw.1 c reply w'.chats.memory ∧ w'.cleanups = w.cleanups := by
  unfold chatReply at h
  split at h
  · cases h
    exact ⟨.failed _, rfl⟩
  · split at h
    · next hmissed =>
      cases h
      exact ⟨.missed hmissed, rfl⟩
    · cases h
      exact ⟨ChatVault.perform_carried rfl, rfl⟩
  · cases h
    exact ⟨ChatVault.perform_carried rfl, rfl⟩

lemma askChats_idle {c : ChatCall} {reply : Option (Except StoreError c.Reply)} (hidle : w.Idle)
    (h : w.askChats c = (reply, w')) : w'.Idle ∧
      ((reply = none ∧ w'.chats = w.chats) ∨ ∃ r stamp, reply = some r ∧
        w.chats.memory.Carried stamp c r w'.chats.memory) := by
  obtain ⟨t, done, w₁, hwait, ⟨-, rfl, rfl⟩ | ⟨r, -, rfl, hreply⟩⟩ := askChats_steps h
  · obtain ⟨hchats, hidle'⟩ := wait_idle (w := (w.begin c.method).2) hidle hwait
    exact ⟨hidle', .inl ⟨rfl, hchats⟩⟩
  · obtain ⟨hchats, hidle'⟩ := wait_idle (w := (w.begin c.method).2) hidle hwait
    obtain ⟨hcarried, hcleanups⟩ := chatReply_carried hreply
    rw [hchats] at hcarried
    exact ⟨hcleanups.trans hidle', .inr ⟨r, _, rfl, hcarried⟩⟩

lemma agentReply_idle {c : AgentCall} {mishap : Option Mishap} {reply : Except StoreError c.Reply}
    (hidle : w.Idle) (h : w.agentReply c mishap = (reply, w')) :
    w'.chats = w.chats ∧ w'.Idle := by
  unfold agentReply at h
  split at h
  · cases h
    exact ⟨rfl, hidle⟩
  · split at h <;> cases h <;> exact ⟨rfl, hidle⟩
  · cases h
    exact ⟨rfl, hidle⟩

lemma askAgents_idle {c : AgentCall} {reply : Option (Except StoreError c.Reply)} (hidle : w.Idle)
    (h : w.askAgents c = (reply, w')) : w'.chats = w.chats ∧ w'.Idle := by
  unfold askAgents at h
  dsimp only at h
  generalize hwait : (w.begin c.method).2.wait _ = found at h
  obtain ⟨done, w₁⟩ := found
  obtain ⟨hchats, hidle₁⟩ := wait_idle (w := (w.begin c.method).2) hidle hwait
  cases done with
  | false =>
    cases h
    exact ⟨hchats, hidle₁⟩
  | true =>
    obtain ⟨-, rfl⟩ := Prod.mk.inj h
    obtain ⟨hchats', hidle'⟩ := agentReply_idle (w := w₁) hidle₁ rfl
    exact ⟨hchats'.trans hchats, hidle'⟩

lemma askStream_idle {r : Request} {reply : Option (Except RunError Stream)} (hidle : w.Idle)
    (h : w.askStream r = (reply, w')) : w'.chats = w.chats ∧ w'.Idle := by
  unfold askStream at h
  dsimp only at h
  split at h
  · cases h
    exact ⟨rfl, hidle⟩
  · generalize hattend : attend _ _ _ _ = found at h
    obtain ⟨opened, w₁⟩ := found
    obtain ⟨hchats, hidle₁⟩ := attend_idle (w := w.opening r _) hidle hattend
    cases h
    exact ⟨hchats, hidle₁⟩

/-- A call that gets no reply, or only looks at the chats, leaves them as they are. -/
theorem answer_unwritten {c : Call} {reply : Option c.Reply} (hidle : w.Idle)
    (hc : reply = none ∨ c.writes = false) (h : answer c w = (reply, w')) :
    w'.chats.memory = w.chats.memory ∧ w'.Idle := by
  cases c with
  | stamp =>
    cases h
    exact ⟨rfl, hidle⟩
  | chats c =>
    obtain ⟨hidle', ⟨-, hchats⟩ | ⟨r, stamp, rfl, hcarried⟩⟩ := askChats_idle hidle h
    · exact ⟨congrArg Vault.memory hchats, hidle'⟩
    · exact ⟨hcarried.query (hc.resolve_left (by simp)), hidle'⟩
  | agents c =>
    obtain ⟨hchats, hidle'⟩ := askAgents_idle hidle h
    exact ⟨congrArg Vault.memory hchats, hidle'⟩
  | invoke r =>
    obtain ⟨hchats, hidle'⟩ := attend_idle (w := w.invoking r _) hidle h
    exact ⟨congrArg Vault.memory hchats, hidle'⟩
  | openStream r =>
    obtain ⟨hchats, hidle'⟩ := askStream_idle hidle h
    exact ⟨congrArg Vault.memory hchats, hidle'⟩

theorem replied_unwritten {log : List Asked} (hidle : w.Idle)
    (hlog : ∀ x ∈ log, x.call.writes = false) (h : Task.Replied answer w log w') :
    w'.chats.memory = w.chats.memory ∧ w'.Idle := by
  induction h with
  | none => exact ⟨rfl, hidle⟩
  | next hx _ ih =>
    rw [List.forall_mem_cons] at hlog
    obtain ⟨hmemory, hidle'⟩ := answer_unwritten hidle (.inr hlog.1) hx
    obtain ⟨hrest, hleft⟩ := ih hidle' hlog.2
    exact ⟨hrest.trans hmemory, hleft⟩

/-- A call for the chats does what the reply says. -/
theorem answer_carried {c : ChatCall} {reply : Except StoreError c.Reply} (hidle : w.Idle)
    (h : answer (.chats c) w = (some reply, w')) :
    (∃ stamp, w.chats.memory.Carried stamp c reply w'.chats.memory) ∧ w'.Idle := by
  obtain ⟨hidle', ⟨hnone, -⟩ | ⟨r, stamp, hr, hcarried⟩⟩ := askChats_idle hidle h
  · cases hnone
  · obtain rfl := Option.some.inj hr
    exact ⟨⟨stamp, hcarried⟩, hidle'⟩

end World

end Parley
