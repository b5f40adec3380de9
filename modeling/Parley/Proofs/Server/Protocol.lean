import Parley.Proofs.Server.Handling
import Parley.Run

/-!
# Work that keeps to a protocol

A `Protocol` says which calls work may make in a state, which replies it has to expect there, and
which state each reply leads to. Whether a task keeps to it is asked call by call (`Task.Keeps`):
work that follows other work has to keep to it from the states on in which the other may end
(`keeps_bind_iff`). What a protocol says then holds of every run (`Keeps.run`).
-/

namespace Parley

structure Protocol (σ : Type) where
  may : σ → Call → Prop
  hears : σ → (c : Call) → c.Reply → Prop
  next : σ → (c : Call) → c.Reply → σ

variable {σ ω α β : Type} {p : Protocol σ} {s : σ}

/-- The call may be made, and makes no difference. -/
def Protocol.Allows (p : Protocol σ) (s : σ) (c : Call) : Prop :=
  p.may s c ∧ ∀ r, p.next s c r = s

namespace Task

/-- A task keeps to a protocol from a state on, and what it comes to fits the state it ends in. -/
def Keeps (p : Protocol σ) (ends : σ → α → Prop) : σ → Task α → Prop
  | s, done a => ends s a
  | s, ask c k => p.may s c ∧ ∀ r, p.hears s c r → Keeps p ends (p.next s c r) (k r)

variable {t : Task α} {ends ends' : σ → α → Prop}

@[simp] lemma keeps_pure_iff {a : α} : Keeps p ends s (pure a) ↔ ends s a := Iff.rfl

theorem keeps_bind_iff {f : α → Task β} {ends : σ → β → Prop} :
    Keeps p ends s (t >>= f) ↔ Keeps p (fun s a => Keeps p ends s (f a)) s t := by
  induction t generalizing s with
  | done a => rfl
  | ask c k ih =>
    exact and_congr_right fun _ => forall_congr' fun r => imp_congr_right fun _ => ih r

lemma Keeps.mono (h : Keeps p ends s t) (hends : ∀ s a, ends s a → ends' s a) :
    Keeps p ends' s t := by
  induction t generalizing s with
  | done a => exact hends s a h
  | ask c k ih => exact ⟨h.1, fun r hr => ih r (h.2 r hr)⟩

/-- A state that goes along with the protocol does so over a whole run. A run that is broken off is
so at a call that may be made. -/
theorem Keeps.run {answer : (c : Call) → ω → Option c.Reply × ω} {Along : σ → ω → Prop} {w w' : ω}
    {out : Option α}
    (hanswer : ∀ {s w c r w'}, Along s w → p.may s c → answer c w = (some r, w') →
      p.hears s c r ∧ Along (p.next s c r) w')
    (h : Keeps p ends s t) (hs : Along s w) (hrun : t.run answer w = (out, w')) :
    (∃ a s', out = some a ∧ Along s' w' ∧ ends s' a) ∨
      ∃ s₁ w₁ c, out = none ∧ Along s₁ w₁ ∧ p.may s₁ c ∧ answer c w₁ = (none, w') := by
  induction t generalizing s w with
  | done a =>
    cases hrun
    exact .inl ⟨a, s, rfl, hs, h⟩
  | ask c k ih =>
    rcases hc : answer c w with ⟨_ | r, w₁⟩ <;> rw [Task.run, hc] at hrun
    · cases hrun
      exact .inr ⟨s, w, c, rfl, hs, h.1, hc⟩
    · obtain ⟨hr, hs₁⟩ := hanswer hs h.1 hc
      exact ih r (h.2 r hr) hs₁ hrun

end Task

namespace Protocol

/-- The replies are such as have to be expected. -/
def Expects (p : Protocol σ) : σ → List Asked → Prop
  | _, [] => True
  | s, x :: log => p.hears s x.call x.reply ∧ Expects p (p.next s x.call x.reply) log

/-- The state that some replies lead to. -/
def after (p : Protocol σ) (s : σ) (log : List Asked) : σ :=
  log.foldl (fun s x => p.next s x.call x.reply) s

lemma after_snoc (log : List Asked) (x : Asked) :
    p.after s (log ++ [x]) = p.next (p.after s log) x.call x.reply := by
  rw [after, List.foldl_append]
  rfl

/-- Where it does not matter in which state a reply comes, each of them has to be expected. -/
lemma expects_of_forall {log : List Asked} (h : ∀ x ∈ log, ∀ s, p.hears s x.call x.reply) :
    p.Expects s log := by
  induction log generalizing s with
  | nil => trivial
  | cons x log ih =>
    rw [List.forall_mem_cons] at h
    exact ⟨h.1 s, ih h.2⟩

lemma expects_snoc {log : List Asked} {x : Asked} :
    p.Expects s (log ++ [x]) ↔ p.Expects s log ∧ p.hears (p.after s log) x.call x.reply := by
  induction log generalizing s with
  | nil => exact and_comm
  | cons y log ih => exact (and_congr_right fun _ => ih).trans and_assoc.symm

end Protocol

namespace Task

variable {t : Task α} {ends : σ → α → Prop} {log : List Asked}

/-- What a task waits for may be asked after the replies that it got. -/
theorem Keeps.waits {c : Call} (h : Keeps p ends s t) (hlog : p.Expects s log)
    (hwaits : t.Waits log c) : p.may (p.after s log) c := by
  induction hwaits generalizing s with
  | here => exact h.1
  | ask r _ ih => exact ih (h.2 r hlog.1) hlog.2

theorem Keeps.ran {a : α} (h : Keeps p ends s t) (hlog : p.Expects s log) (hran : t.Ran log a) :
    ends (p.after s log) a := by
  induction hran generalizing s with
  | done a => exact h
  | ask r _ ih => exact ih (h.2 r hlog.1) hlog.2

section Along

/-! What holds of the calls so far and the state they lead to, and goes on to hold in any call that
may be made, holds of all that passes. -/

variable (Along : List Asked → σ → Prop) {front : List Asked}

theorem Keeps.ran_along {a : α}
    (hstep : ∀ {log s c r}, Along log s → p.may s c → p.hears s c r →
      Along (log ++ [⟨c, r⟩]) (p.next s c r))
    (h : Keeps p ends s t) (hs : Along front s) (hlog : p.Expects s log) (hran : t.Ran log a) :
    ∃ s', Along (front ++ log) s' ∧ ends s' a := by
  induction hran generalizing s front with
  | done a =>
    rw [List.append_nil]
    exact ⟨s, hs, h⟩
  | ask r _ ih =>
    obtain ⟨s', hs', hends⟩ := ih (h.2 r hlog.1) (hstep hs h.1 hlog.1) hlog.2
    rw [List.append_assoc] at hs'
    exact ⟨s', hs', hends⟩

theorem Keeps.waits_along {c : Call}
    (hstep : ∀ {log s c r}, Along log s → p.may s c → p.hears s c r →
      Along (log ++ [⟨c, r⟩]) (p.next s c r))
    (h : Keeps p ends s t) (hs : Along front s) (hlog : p.Expects s log) (hwaits : t.Waits log c) :
    ∃ s', Along (front ++ log) s' ∧ p.may s' c := by
  induction hwaits generalizing s front with
  | here =>
    rw [List.append_nil]
    exact ⟨s, hs, h.1⟩
  | ask r _ ih =>
    obtain ⟨s', hs', hmay⟩ := ih (h.2 r hlog.1) (hstep hs h.1 hlog.1) hlog.2
    rw [List.append_assoc] at hs'
    exact ⟨s', hs', hmay⟩

end Along

end Task

namespace Handler

/-- A handler keeps to a protocol, and so do its refusals. -/
def Keeps (p : Protocol σ) (ends : σ → Except Refusal α → Prop) (s : σ) (h : Handler α) : Prop :=
  Task.Keeps p ends s h.run

variable {h : Handler α} {ends ends' : σ → Except Refusal α → Prop}

@[simp] lemma keeps_pure_iff {a : α} : Keeps p ends s (pure a) ↔ ends s (.ok a) := Iff.rfl

@[simp] lemma keeps_refuse_iff {r : Refusal} :
    Keeps p ends s (refuse r : Handler α) ↔ ends s (.error r) := Iff.rfl

/-- What is asked of the work up to a handler that goes on with its result. -/
def andThen (p : Protocol σ) (ends : σ → Except Refusal β → Prop) (f : α → Handler β) (s : σ) :
    Except Refusal α → Prop
  | .ok a => Keeps p ends s (f a)
  | .error r => ends s (.error r)

theorem keeps_bind_iff {f : α → Handler β} {ends : σ → Except Refusal β → Prop} :
    Keeps p ends s (h >>= f) ↔ Keeps p (andThen p ends f) s h := by
  rw [Keeps, ExceptT.run_bind, Task.keeps_bind_iff]
  refine iff_of_eq (congrArg (Task.Keeps p · s h.run) ?_)
  funext s out
  cases out <;> rfl

lemma Keeps.mono (hk : Keeps p ends s h) (hends : ∀ s a, ends s a → ends' s a) :
    Keeps p ends' s h := Task.Keeps.mono hk hends

lemma keeps_lift_iff {t : Task α} :
    Keeps p ends s (liftM t : Handler α) ↔ t.Keeps p (fun s a => ends s (.ok a)) s := by
  have h : Keeps p ends s (liftM t : Handler α) ↔
      Task.Keeps p ends s (t >>= fun a => pure (.ok a)) := Iff.rfl
  rw [h, Task.keeps_bind_iff]
  rfl

lemma keeps_call_bind_iff {c : Call} {f : c.Reply → Handler α} :
    Keeps p ends s ((liftM (Task.call c) : Handler c.Reply) >>= f) ↔
      p.may s c ∧ ∀ r, p.hears s c r → Keeps p ends (p.next s c r) (f r) := Iff.rfl

lemma keeps_chats_iff {c : ChatCall} {message : String} {ends : σ → Except Refusal c.Reply → Prop} :
    Keeps p ends s (chats c message) ↔ p.may s (.chats c) ∧ ∀ reply, p.hears s (.chats c) reply →
      ends (p.next s (.chats c) reply) (told reply message) := by
  rw [chats, Task.chats, keeps_call_bind_iff]
  refine and_congr_right fun _ => forall_congr' fun reply => ?_
  cases reply <;> rfl

lemma keeps_agents_iff {c : AgentCall} {message : String}
    {ends : σ → Except Refusal c.Reply → Prop} :
    Keeps p ends s (agents c message) ↔ p.may s (.agents c) ∧
      ∀ reply, p.hears s (.agents c) reply →
        ends (p.next s (.agents c) reply) (told reply message) := by
  rw [agents, Task.agents, keeps_call_bind_iff]
  refine and_congr_right fun _ => forall_congr' fun reply => ?_
  cases reply <;> rfl

lemma keeps_stamp_iff {ends : σ → Except Refusal Stamp → Prop} : Keeps p ends s stamp ↔
    p.may s .stamp ∧ ∀ new, p.hears s .stamp new → ends (p.next s .stamp new) (.ok new) := Iff.rfl

lemma keeps_orAbsent_iff {found : Option α} {kind : String} {id : Id} :
    Keeps p ends s (orAbsent found kind id) ↔
      ends s (found.elim (.error (.absent kind id)) .ok) := by
  cases found <;> rfl

lemma keeps_ofExcept_iff {x : Except Refusal α} : Keeps p ends s (ofExcept x) ↔ ends s x := by
  cases x <;> rfl

end Handler

/-- A plan only asks the model. -/
lemma Plan.keeps_run {plan : Plan} {c : Context}
    {ends : σ → Context × Except RunError Stream → Prop}
    (hinvoke : ∀ r, p.Allows s (.invoke r)) (hopen : ∀ r, p.Allows s (.openStream r))
    (hends : ∀ out, ends s out) : (plan.run c).Keeps p ends s := by
  have hprepare (gated : List GatedPrompt) (c : Context) :
      (prepare gated c).Keeps p (fun s' _ => s' = s) s := by
    induction gated generalizing c with
    | nil => rfl
    | cons g rest ih =>
      rw [prepare]
      split
      · refine ⟨(hinvoke _).1, fun reply _ => ?_⟩
        rw [(hinvoke _).2]
        cases reply with
        | error e => rfl
        | ok text => exact ih _
      · exact ih _
  rw [run, Task.keeps_bind_iff]
  refine (hprepare plan.gated c).mono ?_
  rintro _ ⟨c, e | _⟩ rfl
  · exact hends _
  · refine ⟨(hopen _).1, fun reply _ => ?_⟩
    rw [(hopen _).2]
    exact hends _

end Parley
