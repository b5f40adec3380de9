import Mathlib.Data.List.Sort
import Parley.Proofs.Task.Likeness
import Parley.Server.Router

/-!
# Worlds that differ in errors

Two worlds are alike if they differ in nothing but the errors that failing calls of the stores and
the model come with: the same calls fail in both, after the same time. Tasks that are alike come to
related results in them, and leave worlds that are alike again (`Task.Like.perform`).
-/

namespace Parley

inductive Mishap.Like : Mishap → Mishap → Prop
  | fails (e e' : StoreError) : Like (.fails e) (.fails e')
  | missing : Like .missing .missing

structure Trouble.Like (t t' : Trouble) : Prop where
  delay : t'.delay = t.delay
  mishap : ∀ n, Option.Rel Mishap.Like (t.mishap n) (t'.mishap n)

structure Cleanup.Like (c c' : Cleanup) : Prop where
  due : c'.due = c.due
  messageId : c'.messageId = c.messageId
  mishap : Option.Rel Mishap.Like c.mishap c'.mishap

/-- Disks that hold the same, and both refuse to write or neither does. -/
structure Slot.Like (s s' : Slot) : Prop where
  entry : s'.entry = s.entry
  hasParent : s'.hasParent = s.hasParent
  refusal : Option.Rel (fun _ _ => True) s.refusal s'.refusal

structure Vault.Like {σ : Type} (v v' : Vault σ) : Prop where
  memory : v'.memory = v.memory
  slot : v.slot.Like v'.slot

/-- Models that give the same answers at the same time, and fail at the same places. -/
structure Model.Like (m m' : Model) : Prop where
  answer : ∀ n r, (m.answer n r).Like (Agree Eq) (m'.answer n r)
  start : ∀ n r, (m.start n r).Like (Agree Feed.Like) (m'.start n r)

/-- The same world, but for the errors. Which requests the model did not get to see is no part of
it. -/
structure World.Like (w w' : World) : Prop where
  now : w'.now = w.now
  cutoff : w'.cutoff = w.cutoff
  cancelAt : w'.cancelAt = w.cancelAt
  limits : w'.limits = w.limits
  model : w.model.Like w'.model
  answered : w'.answered = w.answered
  invocations : w'.invocations = w.invocations
  streamed : w'.streamed = w.streamed
  stamps : w'.stamps = w.stamps
  chats : w.chats.Like w'.chats
  agents : w.agents.Like w'.agents
  trouble : ∀ m, (w.trouble m).Like (w'.trouble m)
  calls : w'.calls = w.calls
  cleanups : List.Forall₂ Cleanup.Like w.cleanups w'.cleanups

lemma Slot.Like.write {s s' : Slot} (h : s.Like s') (text : String) :
    Agree Slot.Like (s.write text) (s'.write text) := by
  obtain ⟨_, _, refusal⟩ := s
  obtain ⟨entry, hasParent, refusal'⟩ := s'
  obtain ⟨rfl, rfl, hrefusal⟩ := h
  cases hrefusal with
  | some => exact .failed _ _
  | none =>
    cases entry with
    | folder => exact .failed _ _
    | absent => exact .done ⟨rfl, rfl, .none⟩
    | file old => exact .done ⟨rfl, rfl, .none⟩

/-- A decision is carried out in both stores, or in neither. -/
lemma Vault.Like.carryOut {σ ρ : Type} {v v' : Vault σ} (h : v.Like v') (text : σ → String)
    (d : Decision σ ρ) : Agree Eq (v.carryOut text d).1 (v'.carryOut text d).1 ∧
      (v.carryOut text d).2.Like (v'.carryOut text d).2 := by
  rcases d with e | ⟨reply, _ | next⟩
  · exact ⟨.failed e e, h⟩
  · exact ⟨.done rfl, h⟩
  have hwrite := h.slot.write (text next)
  simp only [Vault.carryOut, Vault.save]
  generalize v.slot.write (text next) = out, v'.slot.write (text next) = out' at hwrite
  cases hwrite with
  | failed e e' => exact ⟨.failed e e', h⟩
  | done hslot => exact ⟨.done rfl, rfl, hslot⟩

lemma forall₂_mergeSort {α : Type} {R : α → α → Prop} {le : α → α → Bool} {l l' : List α}
    (h : List.Forall₂ R l l')
    (hle : ∀ a a' b b', R a a' → R b b' → le a b = le a' b') :
    List.Forall₂ R (l.mergeSort le) (l'.mergeSort le) := by
  obtain ⟨hlength, hzip⟩ := List.forall₂_iff_zip.1 h
  -- both lists are sorted as the list of their pairs is
  have hfst := List.map_mergeSort (f := Prod.fst) (l := l.zip l') (r := fun p q => le p.1 q.1)
    (s := le) fun _ _ _ _ => rfl
  have hsnd := List.map_mergeSort (f := Prod.snd) (l := l.zip l') (r := fun p q => le p.1 q.1)
    (s := le) fun p hp q hq => hle _ _ _ _ (hzip hp) (hzip hq)
  rw [List.map_fst_zip hlength.le] at hfst
  rw [List.map_snd_zip hlength.ge] at hsnd
  rw [← hfst, ← hsnd, List.forall₂_map_left_iff, List.forall₂_map_right_iff, List.forall₂_same]
  exact fun p hp => hzip (List.mem_mergeSort.1 hp)

namespace World

variable {α : Type} {R : α → α → Prop} {w w' : World}

/-- Outcomes that are related, in worlds that are alike. -/
structure Agrees (R : α → α → Prop) (p p' : α × World) : Prop where
  outcome : R p.1 p'.1
  world : p.2.Like p'.2

lemma Agrees.parts {p p' : α × World} (h : Agrees R p p') : ∃ a a' v v', p = (a, v) ∧
    p' = (a', v') ∧ R a a' ∧ v.Like v' :=
  ⟨_, _, _, _, rfl, rfl, h.outcome, h.world⟩

namespace Like

lemma draw (h : w.Like w') : Agrees Eq w.draw w'.draw := by
  unfold World.draw
  rw [h.stamps]
  exact ⟨rfl, { h with stamps := rfl }⟩

lemma performChat (h : w.Like w') (c : ChatCall) :
    Agrees (Agree Eq) (w.performChat c) (w'.performChat c) := by
  obtain ⟨stamp, _, v, v', hv, hv', rfl, hdrawn⟩ := h.draw.parts
  have hdecide := hdrawn.chats.carryOut Ledger.text (v.chats.memory.decide stamp c)
  simp only [World.performChat, ChatVault.perform, hv, hv', hdrawn.chats.memory]
  exact ⟨hdecide.1, { hdrawn with chats := hdecide.2 }⟩

lemma performAgent (h : w.Like w') (c : AgentCall) :
    Agrees (Agree Eq) (w.performAgent c) (w'.performAgent c) := by
  obtain ⟨stamp, _, v, v', hv, hv', rfl, hdrawn⟩ := h.draw.parts
  have hdecide := hdrawn.agents.carryOut Roster.text (v.agents.memory.decide stamp c)
  simp only [World.performAgent, AgentVault.perform, hv, hv', hdrawn.agents.memory]
  exact ⟨hdecide.1, { hdrawn with agents := hdecide.2 }⟩

lemma begin (h : w.Like w') (m : Method) :
    Agrees (Option.Rel Mishap.Like) (w.begin m) (w'.begin m) := by
  unfold World.begin
  rw [h.calls]
  exact ⟨(h.trouble m).mishap _, { h with calls := rfl }⟩

lemma tidy (h : w.Like w') {c c' : Cleanup} (hc : c.Like c') :
    (w.tidy c).Like (w'.tidy c') := by
  unfold World.tidy
  rw [hc.messageId]
  have hmishap := hc.mishap
  generalize c.mishap = mishap, c'.mishap = mishap' at hmishap
  cases hmishap with
  | some _ => exact h
  | none => exact (h.performChat _).world

lemma advance (h : w.Like w') (t : Nat) : (w.advance t).Like (w'.advance t) := by
  have hdue (keep : Bool → Bool) : List.Forall₂ Cleanup.Like
      (w.cleanups.filter fun c => keep (c.due ≤ t))
      (w'.cleanups.filter fun c => keep (c.due ≤ t)) :=
    List.rel_filter (fun c c' hc => by simp only [hc.due]) h.cleanups
  unfold World.advance
  refine List.rel_foldl (fun _ _ h _ _ hc => h.tidy hc) ?_ ?_
  · exact { h with now := congrArg (max · t) h.now, cleanups := hdue (!·) }
  · exact forall₂_mergeSort (hdue id) fun a a' b b' ha hb => by rw [ha.due, hb.due]

lemma wait (h : w.Like w') (t : Nat) : Agrees Eq (w.wait t) (w'.wait t) := by
  unfold World.wait
  rw [h.cutoff]
  cases w.cutoff with
  | none => exact ⟨rfl, h.advance t⟩
  | some cutoff =>
    dsimp only
    split_ifs
    · exact ⟨rfl, h.advance cutoff⟩
    · exact ⟨rfl, h.advance t⟩

lemma chatReply (h : w.Like w') (c : ChatCall) {m m' : Option Mishap}
    (hm : Option.Rel Mishap.Like m m') :
    Agrees (Agree Eq) (w.chatReply c m) (w'.chatReply c m') := by
  cases hm with
  | none => exact h.performChat c
  | some hm =>
    cases hm with
    | fails e e' => exact ⟨.failed e e', h⟩
    | missing =>
      simp only [World.chatReply]
      cases c.absent? with
      | none => exact h.performChat c
      | some reply => exact ⟨.done rfl, h⟩

lemma agentReply (h : w.Like w') (c : AgentCall) {m m' : Option Mishap}
    (hm : Option.Rel Mishap.Like m m') :
    Agrees (Agree Eq) (w.agentReply c m) (w'.agentReply c m') := by
  cases hm with
  | none => exact h.performAgent c
  | some hm =>
    cases hm with
    | fails e e' => exact ⟨.failed e e', h⟩
    | missing =>
      simp only [World.agentReply]
      cases c.absent? with
      | none => exact h.performAgent c
      | some reply => exact ⟨.done rfl, h⟩

/-- The calls of a method take as long, counted from where the worlds are. -/
lemma waitFor (h : w.Like w') (m : Method) :
    Agrees Eq (w.wait (w.now + (w.trouble m).delay)) (w'.wait (w'.now + (w'.trouble m).delay)) := by
  rw [h.now, (h.trouble m).delay]
  exact h.wait _

lemma askChats (h : w.Like w') (c : ChatCall) :
    Agrees (Option.Rel (Agree Eq)) (w.askChats c) (w'.askChats c) := by
  obtain ⟨m, m', v, v', hv, hv', hm, hbegun⟩ := (h.begin c.method).parts
  obtain ⟨arrived, _, u, u', hu, hu', rfl, hwaited⟩ := (hbegun.waitFor c.method).parts
  simp only [World.askChats, hv, hv', hu, hu']
  cases arrived with
  | false => exact ⟨.none, hwaited⟩
  | true =>
    have hreply := hwaited.chatReply c hm
    exact ⟨.some hreply.outcome, hreply.world⟩

lemma askAgents (h : w.Like w') (c : AgentCall) :
    Agrees (Option.Rel (Agree Eq)) (w.askAgents c) (w'.askAgents c) := by
  obtain ⟨m, m', v, v', hv, hv', hm, hbegun⟩ := (h.begin c.method).parts
  obtain ⟨arrived, _, u, u', hu, hu', rfl, hwaited⟩ := (hbegun.waitFor c.method).parts
  simp only [World.askAgents, hv, hv', hu, hu']
  cases arrived with
  | false => exact ⟨.none, hwaited⟩
  | true =>
    have hreply := hwaited.agentReply c hm
    exact ⟨.some hreply.outcome, hreply.world⟩

lemma attend (h : w.Like w') {d d' : Delayed (Except RunError α)} (hd : d.Like (Agree R) d')
    (deadline limit limit' : Nat) :
    Agrees (Option.Rel (Agree R)) (w.attend d deadline limit) (w'.attend d' deadline limit') := by
  unfold World.attend
  rw [h.now, h.cancelAt, hd.after, hd.ahead]
  generalize Clock.await w.now d.after d.ahead deadline w.cancelAt = ending
  obtain ⟨outcome, t⟩ := ending
  obtain ⟨arrived, _, v, v', hv, hv', rfl, hwaited⟩ := (h.wait t).parts
  simp only [hv, hv']
  cases arrived with
  | false => exact ⟨.none, hwaited⟩
  | true =>
    cases outcome with
    | arrived =>
      refine ⟨.some hd.value, { hwaited with answered := ?_ }⟩
      exact congrArg (· + 1) hwaited.answered
    | expired => exact ⟨.some (.failed _ _), hwaited⟩
    | cancelled => exact ⟨.some (.failed _ _), hwaited⟩

lemma askModel (h : w.Like w') (r : Request) :
    Agrees (Option.Rel (Agree Eq)) (w.askModel r) (w'.askModel r) := by
  have hasking : (w.invoking r (w.model.answer w.answered r)).Like
      (w'.invoking r (w'.model.answer w'.answered r)) :=
    { h with invocations := congrArg (· ++ [r]) h.invocations }
  have hanswer : (w.model.answer w.answered r).Like (Agree Eq)
      (w'.model.answer w'.answered r) := by
    rw [h.answered]
    exact h.model.answer _ r
  have hdeadline : Clock.afterOrFar w'.now w'.limits.step =
      Clock.afterOrFar w.now w.limits.step := by
    rw [h.now, h.limits]
  simp only [World.askModel, hdeadline]
  exact hasking.attend hanswer _ _ _

lemma askStream (h : w.Like w') (r : Request) :
    Agrees (Option.Rel (Agree Stream.Like)) (w.askStream r) (w'.askStream r) := by
  have hstart : (w.model.start w.streamed.length r).Like (Agree Feed.Like)
      (w'.model.start w'.streamed.length r) := by
    rw [h.streamed]
    exact h.model.start _ r
  have hasking : (w.opening r (w.model.start w.streamed.length r)).Like
      (w'.opening r (w'.model.start w'.streamed.length r)) :=
    { h with streamed := congrArg (· ++ [r]) h.streamed }
  have hdeadline : Clock.after? w'.now w'.limits.stream = Clock.after? w.now w.limits.stream := by
    rw [h.now, h.limits]
  simp only [World.askStream, hdeadline]
  cases Clock.after? w.now w.limits.stream with
  | none => exact ⟨.none, h⟩
  | some deadline =>
    obtain ⟨reply, reply', v, v', hv, hv', hreply, hattended⟩ :=
      (hasking.attend hstart deadline w.limits.stream w'.limits.stream).parts
    simp only [hv, hv']
    refine ⟨?_, { hattended with answered := h.answered }⟩
    cases hreply with
    | none => exact .none
    | some hreply =>
      cases hreply with
      | failed e e' => exact .some (.failed e e')
      | done hfeed => exact .some (.done ⟨hfeed, rfl, by rw [h.limits], rfl⟩)

theorem answer (h : w.Like w') (c : Call) :
    Agrees (Option.Rel c.Like) (answer c w) (answer c w') := by
  cases c with
  | stamp => exact ⟨.some h.draw.outcome, h.draw.world⟩
  | chats c => exact h.askChats c
  | agents c => exact h.askAgents c
  | invoke r => exact h.askModel r
  | openStream r => exact h.askStream r

end Like

end World

/-- Told by worlds that are alike, tasks that are alike make the same calls and end alike. -/
theorem Task.Like.perform {α : Type} {R : α → α → Prop} {t t' : Task α} {w w' : World}
    (ht : t.Like R t') (h : w.Like w') :
    World.Agrees (Option.Rel R) (w.perform t) (w'.perform t') := by
  unfold World.perform
  induction ht generalizing w w' with
  | done hresult => exact ⟨.some hresult, h⟩
  | ask _ ih =>
    rename_i c k k' _
    obtain ⟨reply, reply', v, v', hv, hv', hreply, hasked⟩ := (h.answer c).parts
    simp only [Task.run, hv, hv']
    cases hreply with
    | none => exact ⟨.none, hasked⟩
    | some hreply => exact ih _ _ hreply hasked

end Parley
