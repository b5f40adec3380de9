import Mathlib.Tactic.SplitIfs
import Parley.Proofs.Agent.Execution
import Parley.Server.Setup

/-!
# Models in a world

A world hands every call for the model on to it, keeps the requests in order, and replies what the
model says unless the time for it is up or the wait is called off before (`Clock.Ends`). So a plan
that is run in a world is executed, and the model is asked what the execution asks
(`run_executes`).
-/

namespace Parley

/-- How a wait for something ends: it comes in time and the wait is not called off before, or it
does not come in time, or the wait is called off first. -/
inductive Clock.Ends (now : Nat) (after : Option Nat) (ahead : Bool) (deadline : Nat)
    (cancelAt : Option Nat) : Wait → Prop
  | arrived {n : Nat} (hafter : after = some n) (hdeadline : n = 0 ∨ now + n ≤ deadline)
    (hon : ¬CalledOff now ahead cancelAt (now + n)) :
    Ends now after ahead deadline cancelAt .arrived
  | expired (hlate : ∀ n, after = some n → n ≠ 0 ∧ deadline < now + n)
    (hon : ¬CalledOff now ahead cancelAt (max deadline now)) :
    Ends now after ahead deadline cancelAt .expired
  | cancelled (hoff : CalledOff now ahead cancelAt (max deadline now))
    (hfirst : ∀ n, after = some n → CalledOff now ahead cancelAt (now + n)) :
    Ends now after ahead deadline cancelAt .cancelled

namespace Clock

variable {now deadline t t' : Nat} {after cancelAt : Option Nat} {ahead : Bool}

lemma CalledOff.later (h : CalledOff now ahead cancelAt t) (ht : t ≤ t') :
    CalledOff now ahead cancelAt t' := by
  obtain ⟨c, hc, hbefore | ⟨hahead, rfl⟩⟩ := h
  · exact ⟨c, hc, .inl (Nat.lt_of_lt_of_le hbefore ht)⟩
  · exact ⟨c, hc, (Nat.lt_or_eq_of_le ht).imp_right fun h => ⟨hahead, h⟩⟩

/-- A wait that is not called off ends with what is waited for if that comes in time, and else at
the deadline. -/
lemma awaitOn_cases (now : Nat) (after : Option Nat) (deadline : Nat) :
    (∃ d, after = some d ∧ now + d ≤ max deadline now ∧
        awaitOn now after deadline = (.arrived, now + d)) ∨
      ((∀ d, after = some d → max deadline now < now + d) ∧
        awaitOn now after deadline = (.expired, max deadline now)) := by
  cases after with
  | none => exact .inr ⟨nofun, rfl⟩
  | some d =>
    by_cases htime : now + d ≤ max deadline now
    · exact .inl ⟨d, rfl, htime, if_pos htime⟩
    · refine .inr ⟨fun n hn => ?_, if_neg htime⟩
      obtain rfl := Option.some.inj hn
      exact Nat.lt_of_not_le htime

lemma await_off {outcome : Wait} (h : awaitOn now after deadline = (outcome, t))
    (hoff : CalledOff now ahead cancelAt t) :
    await now after ahead deadline cancelAt = (.cancelled, cancelAt.elim now (max now)) := by
  unfold await
  rw [h]
  exact if_pos hoff

lemma await_on {outcome : Wait} (h : awaitOn now after deadline = (outcome, t))
    (hon : ¬CalledOff now ahead cancelAt t) :
    await now after ahead deadline cancelAt = (outcome, t) := by
  unfold await
  rw [h]
  exact if_neg hon

theorem await_ends (now : Nat) (after : Option Nat) (ahead : Bool) (deadline : Nat)
    (cancelAt : Option Nat) :
    Ends now after ahead deadline cancelAt (await now after ahead deadline cancelAt).1 := by
  obtain ⟨d, rfl, htime, hfirst⟩ | ⟨hlate, hfirst⟩ := awaitOn_cases now after deadline
  · by_cases hoff : CalledOff now ahead cancelAt (now + d)
    · rw [await_off hfirst hoff]
      refine .cancelled (hoff.later htime) fun n hn => ?_
      obtain rfl := Option.some.inj hn
      exact hoff
    · rw [await_on hfirst hoff]
      exact .arrived rfl (by omega) hoff
  · by_cases hoff : CalledOff now ahead cancelAt (max deadline now)
    · rw [await_off hfirst hoff]
      exact .cancelled hoff fun n hn => hoff.later (Nat.le_of_lt (hlate n hn))
    · rw [await_on hfirst hoff]
      refine .expired (fun n hn => ?_) hoff
      have := hlate n hn
      omega

end Clock

/-- What the one who waited is told, where the wait was for a value. -/
def Wait.reply {α : Type} (value : Except RunError α) (limit : Nat) : Wait → Except RunError α
  | arrived => value
  | expired => .error (.timeout (.ofMillis limit))
  | cancelled => .error .cancelled

namespace World

/-- While time passes, only the clock, the store and what is left to be done in it change. -/
def Passed (w w' : World) : Prop :=
  ∃ now cleanups stamps chats, w' = { w with now, cleanups, stamps, chats }

lemma tidyAll_passed (w : World) (cs : List Cleanup) : w.Passed (cs.foldl tidy w) := by
  induction cs generalizing w with
  | nil => exact ⟨_, _, _, _, rfl⟩
  | cons c cs ih =>
    obtain ⟨now, cleanups, stamps, chats, hrest⟩ := ih (w.tidy c)
    rw [List.foldl_cons, hrest]
    unfold tidy
    split <;> exact ⟨_, _, _, _, rfl⟩

lemma advance_passed (w : World) (t : Nat) : w.Passed (w.advance t) := by
  obtain ⟨now, cleanups, stamps, chats, h⟩ := tidyAll_passed
    { w with now := max w.now t, cleanups := w.cleanups.filter fun c => !(c.due ≤ t) }
    ((w.cleanups.filter (·.due ≤ t)).mergeSort fun a b => a.due ≤ b.due)
  exact ⟨now, cleanups, stamps, chats, h⟩

lemma wait_passed {w w' : World} {t : Nat} {done : Bool} (h : w.wait t = (done, w')) :
    w.Passed w' := by
  unfold wait at h
  split at h
  · split_ifs at h <;> cases h <;> exact w.advance_passed _
  · cases h
    exact w.advance_passed t

variable {w w' : World}

/-- What stays the same in a world whatever it is asked. The model gets to see all that it is asked
where nothing is called off. -/
structure Alike (w w' : World) : Prop where
  model : w'.model = w.model
  limits : w'.limits = w.limits
  cutoff : w'.cutoff = w.cutoff
  cancelAt : w'.cancelAt = w.cancelAt
  trouble : w'.trouble = w.trouble
  unseen : w.cancelAt = none → w'.unseen = w.unseen

lemma Alike.trans {w'' : World} (h : Alike w w') (h' : Alike w' w'') : Alike w w'' :=
  ⟨h'.model.trans h.model, h'.limits.trans h.limits, h'.cutoff.trans h.cutoff,
    h'.cancelAt.trans h.cancelAt, h'.trouble.trans h.trouble,
    fun hon => (h'.unseen (h.cancelAt.trans hon)).trans (h.unseen hon)⟩

/-- The world was asked, and some requests were made of the model. -/
structure Asks (w : World) (invoked streamed : List Request) (w' : World) : Prop where
  alike : w.Alike w'
  invocations : w'.invocations = w.invocations ++ invoked
  streamed : w'.streamed = w.streamed ++ streamed

lemma Alike.asks (h : w.Alike w') (hinvocations : w'.invocations = w.invocations)
    (hstreamed : w'.streamed = w.streamed) : w.Asks [] [] w' :=
  ⟨h, hinvocations.trans (List.append_nil _).symm, hstreamed.trans (List.append_nil _).symm⟩

lemma Passed.asks (h : w.Passed w') : w.Asks [] [] w' := by
  obtain ⟨now, cleanups, stamps, chats, rfl⟩ := h
  exact Alike.asks ⟨rfl, rfl, rfl, rfl, rfl, fun _ => rfl⟩ rfl rfl

/-- What a model call is told. -/
lemma attend_reply {α : Type} {d : Delayed (Except RunError α)} {deadline limit : Nat}
    {reply : Option (Except RunError α)} (h : w.attend d deadline limit = (reply, w')) :
    w.Asks [] [] w' ∧ ((reply = none ∧ w.cutoff ≠ none) ∨
      ∃ outcome, reply = some (outcome.reply d.value limit) ∧
        Clock.Ends w.now d.after d.ahead deadline w.cancelAt outcome) := by
  unfold attend at h
  have hends := Clock.await_ends w.now d.after d.ahead deadline w.cancelAt
  rcases hawait : Clock.await w.now d.after d.ahead deadline w.cancelAt with ⟨outcome, t⟩
  rw [hawait] at h hends
  dsimp only at h
  rcases hwait : w.wait t with ⟨done, w₁⟩
  rw [hwait] at h
  obtain ⟨halike, hinvocations, hstreamed⟩ := (wait_passed hwait).asks
  cases done with
  | false =>
    cases h
    refine ⟨⟨halike, hinvocations, hstreamed⟩, .inl ⟨rfl, fun hcutoff => ?_⟩⟩
    rw [wait, hcutoff] at hwait
    cases hwait
  | true =>
    cases outcome <;> cases h <;>
      exact ⟨⟨⟨halike.model, halike.limits, halike.cutoff, halike.cancelAt, halike.trouble,
        halike.unseen⟩, hinvocations, hstreamed⟩, .inr ⟨_, rfl, hends⟩⟩

lemma attend_unseen {α : Type} {d : Delayed (Except RunError α)} {deadline limit : Nat}
    {reply : Option (Except RunError α)} (h : w.attend d deadline limit = (reply, w')) :
    w'.unseen = w.unseen := by
  unfold attend at h
  generalize Clock.await w.now d.after d.ahead deadline w.cancelAt = ending at h
  obtain ⟨outcome, t⟩ := ending
  dsimp only at h
  rcases hwait : w.wait t with ⟨done, w₁⟩
  rw [hwait] at h
  obtain ⟨now, cleanups, stamps, chats, rfl⟩ := wait_passed hwait
  cases done with
  | false => cases h; rfl
  | true => cases outcome <;> cases h <;> rfl

lemma missed_of_on {α : Type} (hon : w.cancelAt = none) (r : Request) (d : Delayed α) :
    w.missed r d = [] := by
  refine if_neg ?_
  rw [hon]
  rintro ⟨c, hc, -⟩
  cases hc

lemma askModel_unseen {r : Request} {reply : Option (Except RunError String)}
    (h : w.askModel r = (reply, w')) :
    w'.unseen = w.unseen ++ w.missed r (w.model.answer w.answered r) := attend_unseen h

lemma askModel_asks {r : Request} {reply : Option (Except RunError String)}
    (h : w.askModel r = (reply, w')) : w.Asks [r] [] w' := by
  obtain ⟨halike, hinvocations, hstreamed⟩ := (attend_reply h).1
  refine ⟨⟨halike.model, halike.limits, halike.cutoff, halike.cancelAt, halike.trouble,
    fun hon => ?_⟩, hinvocations.trans (List.append_nil _), hstreamed⟩
  rw [askModel_unseen h, missed_of_on hon, List.append_nil]

lemma askModel_lost {r : Request} (h : w.askModel r = (none, w')) : w.cutoff ≠ none := by
  obtain ⟨-, ⟨-, hcutoff⟩ | ⟨outcome, hreply, -⟩⟩ := attend_reply h
  · exact hcutoff
  · cases hreply

/-- Where the clock does not get as far as its deadline, a stream is not asked for. -/
lemma askStream_of_none (r : Request) (hclock : Clock.after? w.now w.limits.stream = none) :
    w.askStream r = (none, w) := by
  unfold askStream
  simp only [hclock]

/-- Elsewhere it is asked for, and opened well or badly unless that is broken off at the cutoff. -/
lemma askStream_of_ne_none {r : Request} {reply : Option (Except RunError Stream)}
    (hclock : Clock.after? w.now w.limits.stream ≠ none) (h : w.askStream r = (reply, w')) :
    w.Asks [] [r] w' ∧ w'.unseen = w.unseen ++ w.missed r (w.model.start w.streamed.length r) ∧
      (reply = none → w.cutoff ≠ none) := by
  unfold askStream at h
  dsimp only at h
  split at h
  · next hnone => exact absurd hnone hclock
  · generalize hattend : attend _ _ _ _ = found at h
    obtain ⟨opened, w₁⟩ := found
    obtain ⟨⟨halike, hinvocations, hstreamed⟩, htold⟩ := attend_reply hattend
    have hunseen := attend_unseen hattend
    obtain ⟨rfl, rfl⟩ := Prod.mk.inj h
    refine ⟨⟨⟨halike.model, halike.limits, halike.cutoff, halike.cancelAt, halike.trouble,
      fun hon => ?_⟩, hinvocations, hstreamed.trans (List.append_nil _)⟩, hunseen, fun hnone => ?_⟩
    · exact hunseen.trans ((congrArg _ (missed_of_on hon r _)).trans (List.append_nil _))
    · obtain ⟨-, hcutoff⟩ | ⟨outcome, rfl, -⟩ := htold
      · exact hcutoff
      · cases hnone

lemma askStream_asks {r : Request} {reply : Except RunError Stream}
    (h : w.askStream r = (some reply, w')) : w.Asks [] [r] w' := by
  by_cases hclock : Clock.after? w.now w.limits.stream = none
  · rw [askStream_of_none r hclock] at h
    cases h
  · exact (askStream_of_ne_none hclock h).1

lemma Asks.trans {w'' : World} {invoked streamed invoked' streamed' : List Request}
    (h : w.Asks invoked streamed w') (h' : w'.Asks invoked' streamed' w'') :
    w.Asks (invoked ++ invoked') (streamed ++ streamed') w'' := by
  refine ⟨h.alike.trans h'.alike, ?_, ?_⟩
  · rw [h'.invocations, h.invocations, List.append_assoc]
  · rw [h'.streamed, h.streamed, List.append_assoc]

/-- A call counts before anything comes of it. -/
lemma begin_asks (w : World) (m : Method) : w.Asks [] [] (w.begin m).2 :=
  Alike.asks ⟨rfl, rfl, rfl, rfl, rfl, fun _ => rfl⟩ rfl rfl

/-- A store call counts, time passes, and unless the work is broken off then it is replied to. -/
lemma askChats_steps {c : ChatCall} {reply : Option (Except StoreError c.Reply)}
    (h : w.askChats c = (reply, w')) : ∃ t done w₁, (w.begin c.method).2.wait t = (done, w₁) ∧
      ((done = false ∧ reply = none ∧ w' = w₁) ∨ ∃ r, done = true ∧ reply = some r ∧
        w₁.chatReply c ((w.trouble c.method).mishap (w.calls c.method + 1)) = (r, w')) := by
  unfold askChats at h
  rcases hwait : (w.begin c.method).2.wait ((w.begin c.method).2.now +
    ((w.begin c.method).2.trouble c.method).delay) with ⟨done, w₁⟩
  refine ⟨_, done, w₁, hwait, ?_⟩
  simp only [hwait] at h
  cases done with
  | false =>
    cases h
    exact .inl ⟨rfl, rfl, rfl⟩
  | true =>
    cases h
    exact .inr ⟨_, rfl, rfl, rfl⟩

lemma chatReply_passed {c : ChatCall} {mishap : Option Mishap} {reply : Except StoreError c.Reply}
    (h : w.chatReply c mishap = (reply, w')) : w.Passed w' := by
  unfold chatReply at h
  split at h
  · cases h
    exact ⟨_, _, _, _, rfl⟩
  · split at h <;> cases h <;> exact ⟨_, _, _, _, rfl⟩
  · cases h
    exact ⟨_, _, _, _, rfl⟩

lemma askChats_asks {c : ChatCall} {reply : Option (Except StoreError c.Reply)}
    (h : w.askChats c = (reply, w')) : w.Asks [] [] w' := by
  obtain ⟨t, done, w₁, hwait, ⟨-, -, rfl⟩ | ⟨r, -, -, hreply⟩⟩ := askChats_steps h
  · exact (begin_asks w _).trans (wait_passed hwait).asks
  · exact ((begin_asks w _).trans (wait_passed hwait).asks).trans (chatReply_passed hreply).asks

lemma agentReply_asks {c : AgentCall} {mishap : Option Mishap}
    {reply : Except StoreError c.Reply} (h : w.agentReply c mishap = (reply, w')) :
    w.Asks [] [] w' := by
  have hsame : ∀ stamps agents, w.Asks [] [] { w with stamps, agents } := fun _ _ =>
    Alike.asks ⟨rfl, rfl, rfl, rfl, rfl, fun _ => rfl⟩ rfl rfl
  unfold agentReply at h
  split at h
  · cases h
    exact hsame _ _
  · split at h <;> cases h <;> exact hsame _ _
  · cases h
    exact hsame _ _

lemma askAgents_asks {c : AgentCall} {reply : Option (Except StoreError c.Reply)}
    (h : w.askAgents c = (reply, w')) : w.Asks [] [] w' := by
  unfold askAgents at h
  rcases hwait : (w.begin c.method).2.wait ((w.begin c.method).2.now +
    ((w.begin c.method).2.trouble c.method).delay) with ⟨done, w₁⟩
  simp only [hwait] at h
  have hwaited := (begin_asks w c.method).trans (wait_passed hwait).asks
  cases done with
  | false =>
    cases h
    exact hwaited
  | true =>
    obtain ⟨-, rfl⟩ := Prod.mk.inj h
    exact hwaited.trans (agentReply_asks rfl)

end World

/-- The requests of a call for the whole of a reply. -/
def Call.invoked : Call → List Request
  | invoke r => [r]
  | _ => []

/-- The requests of a call for a stream. -/
def Call.streamed : Call → List Request
  | openStream r => [r]
  | _ => []

namespace World

variable {w w' : World}

/-- The model gets the request of a call, if the call is for the model, and no other. -/
theorem answer_asks {c : Call} {r : c.Reply} (h : answer c w = (some r, w')) :
    w.Asks c.invoked c.streamed w' := by
  cases c with
  | stamp =>
    cases h
    exact Alike.asks ⟨rfl, rfl, rfl, rfl, rfl, fun _ => rfl⟩ rfl rfl
  | chats c => exact askChats_asks h
  | agents c => exact askAgents_asks h
  | invoke r => exact askModel_asks h
  | openStream r => exact askStream_asks h

theorem replied_asks {log : List Asked} (h : Task.Replied answer w log w') :
    w.Asks (log.flatMap (·.call.invoked)) (log.flatMap (·.call.streamed)) w' := by
  induction h with
  | none => exact Alike.asks ⟨rfl, rfl, rfl, rfl, rfl, fun _ => rfl⟩ rfl rfl
  | next hx _ ih => exact (answer_asks hx).trans ih

lemma askChats_lost {c : ChatCall} (h : w.askChats c = (none, w')) : w.cutoff ≠ none := by
  obtain ⟨t, done, w₁, hwait, ⟨rfl, -, rfl⟩ | ⟨r, -, hnone, -⟩⟩ := askChats_steps h
  · intro hcutoff
    rw [wait, show (w.begin c.method).2.cutoff = none from hcutoff] at hwait
    cases hwait
  · cases hnone

lemma askAgents_lost {c : AgentCall} (h : w.askAgents c = (none, w')) : w.cutoff ≠ none := by
  intro hcutoff
  unfold askAgents wait at h
  simp only [begin, hcutoff] at h
  cases h

end World

/-- One thing is set, the time for answers. -/
def Setup.ofStreamTime (time : String) : String → Option String := fun name =>
  if name = "STREAM_TIMEOUT_SECS" then some time else none

/-- A world with this setup, at some time. -/
def Setup.worldAt (now : Nat) (get? : String → Option String) : World :=
  { now, limits := (ofVariables get?).limits, model := .unreachable,
    stamps := ⟨fun _ => default, 0⟩ }

/-- A world with the longest time that can be set for answers. -/
def World.boundless : World := Setup.worldAt 0 (Setup.ofStreamTime "18446744073709551615")

lemma World.boundless_clock :
    Clock.after? boundless.now boundless.limits.stream = none := by decide +kernel

end Parley
