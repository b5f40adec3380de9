import Parley.Proofs.Server.Calls
import Parley.Proofs.Server.World

/-!
# What passes beside the chats

Much of what happens to a world leaves its chats alone: other records are read, the model is asked,
new identifiers are handed out. Meanwhile time passes, and what is due by then is deleted
(`World.Lapse`). A call for the chats is such a lapse, and then it is replied to.
-/

namespace Parley

/-- The identifier was handed out. -/
def Stamps.Drawn (s : Stamps) (id : Id) : Prop := ∃ i < s.drawn, (s.nth i).id = id

/-- No identifier was handed out twice. -/
def Stamps.Distinct (s : Stamps) : Prop :=
  ∀ i < s.drawn, ∀ j < s.drawn, (s.nth i).id = (s.nth j).id → i = j

instance (s : Stamps) : Decidable s.Distinct :=
  inferInstanceAs (Decidable (∀ i < s.drawn, ∀ j < s.drawn, (s.nth i).id = (s.nth j).id → i = j))

/-- A vault whose slot can be written stays so. -/
lemma Vault.carryOut_writable {σ ρ : Type} {text : σ → String} {v v' : Vault σ} {d : Decision σ ρ}
    {reply : Except StoreError ρ} (h : v.carryOut text d = (reply, v')) (hv : v.slot.Writable) :
    v'.slot.Writable := by
  unfold carryOut at h
  split at h
  · cases h
    exact hv
  · cases h
    exact hv
  · next next =>
    unfold save at h
    cases hslot : v.slot.write (text next) with
    | error e =>
      rw [hslot] at h
      cases h
      exact hv
    | ok slot =>
      rw [hslot] at h
      cases h
      exact (Slot.write_ok hslot).2

namespace World

/-- What is assumed of the world: the store can be written to, deletes the messages that it is asked
to delete, and does not say that a message is missing while it is there. -/
structure Obliging (w : World) : Prop where
  deletes : ∀ n, (w.trouble .deleteMessage).mishap n = none
  tidies : ∀ c ∈ w.cleanups, c.mishap = none
  finds : ∀ n, (w.trouble .updateMessage).mishap n ≠ some .missing
  writable : w.chats.slot.Writable

/-- A change of the world that may hand out identifiers, and leaves it obliging. -/
structure Steady (w w' : World) : Prop where
  nth : w'.stamps.nth = w.stamps.nth
  drawn : w.stamps.drawn ≤ w'.stamps.drawn
  obliging : w.Obliging → w'.Obliging

/-- A change of the world beside the chats and the deletions that are to be done. -/
structure Beside (w w' : World) : Prop extends Steady w w' where
  chats : w'.chats.memory.chats = w.chats.memory.chats
  cleanups : w'.cleanups = w.cleanups

/-- Time passes, and things happen beside the chats. -/
inductive Lapse (w : World) : World → Prop
  | none : Lapse w w
  | beside {w₁ w₂ : World} (h : Lapse w w₁) (h' : w₁.Beside w₂) : Lapse w w₂
  | advance {w₁ : World} (h : Lapse w w₁) (t : Nat) : Lapse w (w₁.advance t)

variable {w w₁ w₂ w' : World}

lemma Lapse.trans (h : w.Lapse w₁) (h' : w₁.Lapse w₂) : w.Lapse w₂ := by
  induction h' with
  | none => exact h
  | beside _ hbeside ih => exact ih.beside hbeside
  | advance _ t ih => exact ih.advance t

lemma Steady.drawn_of {id : Id} (h : w.Steady w') (hid : w.stamps.Drawn id) :
    w'.stamps.Drawn id := by
  obtain ⟨i, hi, rfl⟩ := hid
  exact ⟨i, Nat.lt_of_lt_of_le hi h.drawn, by rw [h.nth]⟩

lemma Steady.distinct (h : w.Steady w') (hw' : w'.stamps.Distinct) : w.stamps.Distinct :=
  fun i hi j hj heq => hw' i (Nat.lt_of_lt_of_le hi h.drawn) j (Nat.lt_of_lt_of_le hj h.drawn)
    (by rwa [h.nth])

lemma Steady.trans (h : w.Steady w₁) (h' : w₁.Steady w₂) : w.Steady w₂ :=
  ⟨h'.nth.trans h.nth, Nat.le_trans h.drawn h'.drawn, fun hw => h'.obliging (h.obliging hw)⟩

lemma Beside.lapse (h : w.Beside w') : w.Lapse w' := Lapse.none.beside h

lemma Beside.refl (w : World) : w.Beside w :=
  ⟨⟨rfl, Nat.le_refl _, fun h => h⟩, rfl, rfl⟩

/-- Only what is read of the model, the agents and the clock, and what was handed out. -/
lemma beside_of_eq (hchats : w'.chats = w.chats) (hcleanups : w'.cleanups = w.cleanups)
    (htrouble : w'.trouble = w.trouble) (hnth : w'.stamps.nth = w.stamps.nth)
    (hdrawn : w.stamps.drawn ≤ w'.stamps.drawn) : w.Beside w' where
  nth := hnth
  drawn := hdrawn
  obliging h := ⟨htrouble ▸ h.deletes, hcleanups ▸ h.tidies, htrouble ▸ h.finds,
    hchats ▸ h.writable⟩
  chats := congrArg (·.memory.chats) hchats
  cleanups := hcleanups

lemma begin_beside (w : World) (m : Method) : w.Beside (w.begin m).2 :=
  beside_of_eq rfl rfl rfl rfl (Nat.le_refl _)

lemma setClock_steady (w : World) (t : Nat) : w.Steady (w.setClock t) :=
  ⟨rfl, Nat.le_refl _, fun h =>
    ⟨h.deletes, fun c hc => h.tidies c (List.mem_filter.1 hc).1, h.finds, h.writable⟩⟩

lemma performChat_steady {c : ChatCall} {reply : Except StoreError c.Reply}
    (h : w.performChat c = (reply, w')) : w.Steady w' := by
  unfold performChat at h
  cases h
  exact ⟨rfl, Nat.le_succ _, fun hw =>
    ⟨hw.deletes, hw.tidies, hw.finds, Vault.carryOut_writable rfl hw.writable⟩⟩

lemma tidyAll_steady (w : World) (cs : List Cleanup) : w.Steady (cs.foldl tidy w) := by
  induction cs generalizing w with
  | nil => exact (Beside.refl w).toSteady
  | cons c cs ih =>
    refine Steady.trans ?_ (ih (w.tidy c))
    unfold tidy
    split
    · exact (Beside.refl w).toSteady
    · exact performChat_steady rfl

theorem Lapse.steady (h : w.Lapse w') : w.Steady w' := by
  induction h with
  | none => exact (Beside.refl w).toSteady
  | beside _ hbeside ih => exact ih.trans hbeside.toSteady
  | advance _ t ih => exact ih.trans ((setClock_steady _ t).trans (tidyAll_steady _ _))

lemma wait_lapse {t : Nat} {done : Bool} (h : w.wait t = (done, w')) : w.Lapse w' := by
  unfold wait at h
  split at h
  · split_ifs at h <;> cases h <;> exact Lapse.none.advance _
  · cases h
    exact Lapse.none.advance t

/-- Something goes wrong with a call for the chats, or it is carried out. -/
lemma chatReply_cases {c : ChatCall} {mishap : Option Mishap} {reply : Except StoreError c.Reply}
    (h : w.chatReply c mishap = (reply, w')) :
    (∃ e, mishap = some (.fails e) ∧ reply = .error e ∧ w' = w) ∨
      (∃ r, mishap = some .missing ∧ c.absent? = some r ∧ reply = .ok r ∧ w' = w) ∨
      w.performChat c = (reply, w') := by
  unfold chatReply at h
  split at h
  · cases h
    exact .inl ⟨_, rfl, rfl, rfl⟩
  · split at h
    · next hmissed =>
      cases h
      exact .inr (.inl ⟨_, rfl, hmissed, rfl, rfl⟩)
    · exact .inr (.inr h)
  · exact .inr (.inr h)

lemma chatReply_steady {c : ChatCall} {mishap : Option Mishap} {reply : Except StoreError c.Reply}
    (h : w.chatReply c mishap = (reply, w')) : w.Steady w' := by
  obtain ⟨_, -, -, rfl⟩ | ⟨_, -, -, -, rfl⟩ | hperform := chatReply_cases h
  · exact (Beside.refl w').toSteady
  · exact (Beside.refl w').toSteady
  · exact performChat_steady hperform

/-- A call for the chats takes time, and unless it is broken off then it is replied to. -/
lemma askChats_lapse {c : ChatCall} {reply : Option (Except StoreError c.Reply)}
    (h : w.askChats c = (reply, w')) : ∃ w₁, w.Lapse w₁ ∧ ((reply = none ∧ w' = w₁) ∨
      ∃ r, reply = some r ∧
        w₁.chatReply c ((w.trouble c.method).mishap (w.calls c.method + 1)) = (r, w')) := by
  obtain ⟨t, done, w₁, hwait, ⟨-, hnone, rfl⟩ | ⟨r, -, hsome, hreply⟩⟩ := askChats_steps h
  · exact ⟨w', (begin_beside w _).lapse.trans (wait_lapse hwait), .inl ⟨hnone, rfl⟩⟩
  · exact ⟨w₁, (begin_beside w _).lapse.trans (wait_lapse hwait), .inr ⟨r, hsome, hreply⟩⟩

/-- A call that leaves the chats as they were happens beside them. -/
lemma chatReply_beside {c : ChatCall} {mishap : Option Mishap} {reply : Except StoreError c.Reply}
    (h : w.chatReply c mishap = (reply, w'))
    (hsame : ∀ stamp, w.chats.memory.Carried stamp c reply w'.chats.memory →
      w'.chats.memory = w.chats.memory) : w.Beside w' := by
  obtain ⟨hcarried, hcleanups⟩ := chatReply_carried h
  exact ⟨chatReply_steady h, congrArg (·.chats) (hsame _ hcarried), hcleanups⟩

lemma answer_beside {c : ChatCall} {reply : Except StoreError c.Reply}
    (h : answer (.chats c) w = (some reply, w'))
    (hsame : ∀ l stamp l', Ledger.Carried l stamp c reply l' → l' = l) : w.Lapse w' := by
  obtain ⟨w₁, hlapse, ⟨hnone, -⟩ | ⟨r, hr, hreply⟩⟩ := askChats_lapse h
  · cases hnone
  · obtain rfl := Option.some.inj hr
    exact hlapse.beside (chatReply_beside hreply fun stamp => hsame _ stamp _)

lemma attend_lapse {α : Type} {d : Delayed (Except RunError α)} {deadline limit : Nat}
    {reply : Option (Except RunError α)} (h : w.attend d deadline limit = (reply, w')) :
    w.Lapse w' := by
  unfold attend at h
  dsimp only at h
  generalize hwait : w.wait _ = found at h
  obtain ⟨done, w₁⟩ := found
  have hwaited := wait_lapse hwait
  cases done with
  | false =>
    cases h
    exact hwaited
  | true =>
    dsimp only at h
    split at h <;> cases h
    · exact hwaited.beside (beside_of_eq rfl rfl rfl rfl (Nat.le_refl _))
    · exact hwaited
    · exact hwaited

lemma askModel_lapse {r : Request} {reply : Option (Except RunError String)}
    (h : w.askModel r = (reply, w')) : w.Lapse w' := by
  have hasked : w.Beside (w.invoking r (w.model.answer w.answered r)) :=
    beside_of_eq rfl rfl rfl rfl (Nat.le_refl _)
  exact hasked.lapse.trans (attend_lapse h)

lemma askStream_lapse {r : Request} {reply : Option (Except RunError Stream)}
    (h : w.askStream r = (reply, w')) : w.Lapse w' := by
  unfold askStream at h
  dsimp only at h
  split at h
  · cases h
    exact .none
  · generalize hattend : attend _ _ _ _ = found at h
    obtain ⟨opened, w₁⟩ := found
    obtain ⟨-, rfl⟩ := Prod.mk.inj h
    have hasked : w.Beside (w.opening r (w.model.start w.streamed.length r)) :=
      beside_of_eq rfl rfl rfl rfl (Nat.le_refl _)
    exact (hasked.lapse.trans (attend_lapse hattend)).beside
      (beside_of_eq rfl rfl rfl rfl (Nat.le_refl _))

lemma agentReply_beside {c : AgentCall} {mishap : Option Mishap}
    {reply : Except StoreError c.Reply} (h : w.agentReply c mishap = (reply, w')) :
    w.Beside w' := by
  have hperform : w.Beside (w.performAgent c).2 := beside_of_eq rfl rfl rfl rfl (Nat.le_succ _)
  unfold agentReply at h
  split at h
  · cases h
    exact .refl w
  · split at h <;> cases h
    · exact .refl w
    · exact hperform
  · cases h
    exact hperform

lemma askAgents_lapse {c : AgentCall} {reply : Option (Except StoreError c.Reply)}
    (h : w.askAgents c = (reply, w')) : w.Lapse w' := by
  unfold askAgents at h
  dsimp only at h
  generalize hwait : (w.begin c.method).2.wait _ = found at h
  obtain ⟨done, w₁⟩ := found
  have hwaited := (begin_beside w c.method).lapse.trans (wait_lapse hwait)
  cases done with
  | false =>
    cases h
    exact hwaited
  | true =>
    obtain ⟨-, rfl⟩ := Prod.mk.inj h
    exact hwaited.beside (agentReply_beside rfl)

/-- A call that gets no reply, or only looks at the chats, happens beside them. -/
theorem answer_lapse {c : Call} {reply : Option c.Reply} (hc : reply = none ∨ c.writes = false)
    (h : answer c w = (reply, w')) : w.Lapse w' := by
  cases c with
  | stamp =>
    cases h
    have hdrawn : w.Beside w.draw.2 := beside_of_eq rfl rfl rfl rfl (Nat.le_succ _)
    exact hdrawn.lapse
  | chats c =>
    obtain ⟨w₁, hlapse, ⟨-, rfl⟩ | ⟨r, rfl, hreply⟩⟩ := askChats_lapse h
    · exact hlapse
    · have hquery := hc.resolve_left (by simp)
      exact hlapse.beside (chatReply_beside hreply fun _ hcarried => hcarried.query hquery)
  | agents c => exact askAgents_lapse h
  | invoke r => exact askModel_lapse h
  | openStream r => exact askStream_lapse h

theorem replied_lapse {log : List Asked} (hlog : ∀ x ∈ log, x.call.writes = false)
    (h : Task.Replied answer w log w') : w.Lapse w' := by
  induction h with
  | none => exact .none
  | next hx _ ih =>
    rw [List.forall_mem_cons] at hlog
    exact (answer_lapse (.inr hlog.1) hx).trans (ih hlog.2)

/-- A failure of the store happens beside the chats. -/
lemma answer_failed {c : ChatCall} {e : StoreError}
    (h : answer (.chats c) w = (some (.error e), w')) : w.Lapse w' :=
  answer_beside h fun _ _ _ hcarried => hcarried.failure

/-- A call that succeeds is carried out, unless it was told that something is not there. -/
lemma answer_performed {c : ChatCall} {a : c.Reply}
    (h : answer (.chats c) w = (some (.ok a), w')) (hc : c.absent? ≠ some a) :
    ∃ w₁, w.Lapse w₁ ∧ w₁.performChat c = (.ok a, w') := by
  obtain ⟨w₁, hlapse, ⟨hnone, -⟩ | ⟨r, hr, hreply⟩⟩ := askChats_lapse h
  · cases hnone
  obtain rfl := Option.some.inj hr
  obtain ⟨e, -, hfailed, -⟩ | ⟨r, -, habsent, hok, -⟩ | hperform := chatReply_cases hreply
  · cases hfailed
  · cases hok
    exact absurd habsent hc
  · exact ⟨w₁, hlapse, hperform⟩

end World

end Parley
