import Parley.Model.Script
import Parley.Proofs.Agent.References
import Parley.Proofs.Server.Model

/-!
# Agents of one step

A chat without an agent is answered like a chat with an agent of one step that takes the system
prompt as it stands, the prompt and the whole chat. The two plans are not the same, but to run the
one is to run the other (`Plan.ofAgent_converses`): one stream is asked for, and nothing else. Where
the clock does not get as far as the deadline for it, not even that is.
-/

namespace Parley

/-- An agent of one step that puts the prompt to the model under a system prompt, with the chat in
front of it and nothing else. -/
structure Agent.Converses (a : Agent) (systemPrompt : String) (step : Step) : Prop where
  steps : a.steps = [step]
  system : step.systemTemplate = Template.escape systemPrompt
  message : step.messageTemplate = Template.reference Context.promptName
  history : step.includeChatHistory = true
  seeds : step.messages = []

variable {a : Agent} {p : Plan} {step : Step} {systemPrompt : String} {c : Context}

lemma Agent.Converses.request (h : a.Converses systemPrompt step) (c : Context) :
    (Prompt.ofStep step).request c = ⟨systemPrompt, c.history, c.prompt⟩ := by
  have hprompt : Template.render c (Template.reference Context.promptName) = c.prompt :=
    Template.render_name (by simp [Context.promptName, Template.isBrace]) c
  rw [Prompt.request, Prompt.ofStep, h.system, h.message, h.history, h.seeds,
    Template.render_escape, hprompt]
  rfl

namespace Plan

/-- Without steps in front of it, the answer is asked for at once. -/
lemma run_ungated (h : p.gated = []) (c : Context) : p.run c = (do
    let reply ← Task.openStream (p.answer.request c)
    return (c, reply)) := by
  rw [run, h]
  rfl

lemma converses_run (h : a.Converses systemPrompt step) (ha : Plan.ofAgent a = .ok p)
    (c : Context) : p.run c = (default systemPrompt).run c := by
  obtain ⟨-, front, last, hsteps, hof, hanswer⟩ := ofAgent_ok ha
  obtain ⟨rfl, hlast⟩ := List.append_eq_singleton_iff.1 (hsteps.symm.trans h.steps) |>.resolve_right
    (by simp)
  obtain rfl := List.singleton_inj.1 hlast
  have hgated : p.gated = [] := List.forall₂_nil_left_iff.1 hof
  rw [run_ungated hgated, hanswer, h.request, default_run]

end Plan

lemma World.perform_openStream (w : World) (r : Request) (c : Context) :
    w.perform (do let reply ← Task.openStream r; return (c, reply)) =
      ((w.askStream r).1.map (c, ·), (w.askStream r).2) := by
  change Task.run answer (.ask (.openStream r) fun reply => .done (c, reply)) w = _
  rw [Task.run, answer]
  rcases w.askStream r with ⟨_ | reply, w'⟩ <;> rfl

/-- An agent that only converses is run as if there were no agent: there is one call, which opens a
stream, and its reply is the result. In a world the two come to the same result, with the context as
it was, and leave the same world. If the clock gets as far as the deadline for the stream, then the
model was asked for it once, and gets to see that unless it had been called off before; else both
are broken off without it. -/
theorem Plan.ofAgent_converses (h : a.Converses systemPrompt step) (ha : Plan.ofAgent a = .ok p)
    (c : Context) :
    p.run c = (Plan.default systemPrompt).run c ∧
    (∀ log out, (p.run c).Ran log out ↔ ∃ reply,
      log = [⟨.openStream ⟨systemPrompt, c.history, c.prompt⟩, reply⟩] ∧ out = (c, reply)) ∧
    ∀ (w w' : World) (out : Option (Context × Except RunError Stream)),
      w.perform (p.run c) = (out, w') →
        w.perform ((Plan.default systemPrompt).run c) = (out, w') ∧
        (∀ result, out = some result → result.1 = c) ∧ w'.invocations = w.invocations ∧
        (Clock.after? w.now w.limits.stream = none → out = none ∧ w' = w) ∧
        (Clock.after? w.now w.limits.stream ≠ none →
          w'.streamed = w.streamed ++ [⟨systemPrompt, c.history, c.prompt⟩] ∧
          w'.unseen = w.unseen ++ w.missed ⟨systemPrompt, c.history, c.prompt⟩
            (w.model.start w.streamed.length ⟨systemPrompt, c.history, c.prompt⟩)) := by
  have hrun := converses_run h ha c
  refine ⟨hrun, fun log out => by rw [hrun, ran_default_iff], fun w w' out hperform => ?_⟩
  refine ⟨hrun ▸ hperform, ?_⟩
  rw [hrun, default_run, World.perform_openStream] at hperform
  by_cases hclock : Clock.after? w.now w.limits.stream = none
  · rw [World.askStream_of_none _ hclock] at hperform
    cases hperform
    exact ⟨nofun, rfl, fun _ => ⟨rfl, rfl⟩, fun hne => absurd hclock hne⟩
  · rcases hstream : w.askStream ⟨systemPrompt, c.history, c.prompt⟩ with ⟨reply, w₁⟩
    obtain ⟨⟨-, hinvocations, hstreamed⟩, hunseen, -⟩ := World.askStream_of_ne_none hclock hstream
    rw [hstream] at hperform
    cases hperform
    refine ⟨fun result hresult => ?_, hinvocations.trans (List.append_nil _),
      fun hnone => absurd hnone hclock, fun _ => ⟨hstreamed, hunseen⟩⟩
    obtain ⟨opened, -, rfl⟩ := Option.map_eq_some_iff.1 hresult
    rfl

/-- A step that converses has a name as well. -/
def Agent.conversing (systemPrompt : String) : Agent where
  id := default
  name := "single"
  steps := [⟨default, " reply ", Template.escape systemPrompt,
    Template.reference Context.promptName, true, false, [], []⟩]
  createdAt := default
  updatedAt := default

/-- The system prompt, the prompt and the chat all look like templates. -/
theorem Plan.ofAgent_converses_braces : ∃ (p : Plan) (w w' : World)
    (out : Option (Context × Except RunError Stream)),
    Plan.ofAgent (Agent.conversing "\x7b\x7bprompt\x7d") = .ok p ∧ p.agentId.isSome ∧ out.isSome ∧
    w.perform (p.run (.ofHistory "\x7bname\x7d" [(.human, "\x7bx\x7d")])) = (out, w') ∧
    w.perform ((Plan.default "\x7b\x7bprompt\x7d").run
      (.ofHistory "\x7bname\x7d" [(.human, "\x7bx\x7d")])) = (out, w') ∧
    w'.invocations = [] ∧
    w'.streamed = [⟨"\x7b\x7bprompt\x7d", [⟨.human, "\x7bx\x7d"⟩], "\x7bname\x7d"⟩] ∧
    w'.unseen = [] := by
  let a := Agent.conversing "\x7b\x7bprompt\x7d"
  let step := a.steps.head (by decide)
  let p : Plan := ⟨some a.id, "single", [], .ofStep step⟩
  let w : World := { model := Script.model {}, stamps := ⟨fun _ => ⟨a.id, a.createdAt⟩, 0⟩ }
  let c : Context := .ofHistory "\x7bname\x7d" [(.human, "\x7bx\x7d")]
  have hconverses : a.Converses "\x7b\x7bprompt\x7d" step := ⟨rfl, rfl, rfl, rfl, rfl⟩
  have ha : Plan.ofAgent a = .ok p := by rfl
  have hdone : (w.perform (p.run c)).1.isSome := by decide +kernel
  rcases hperform : w.perform (p.run c) with ⟨out, w'⟩
  rw [hperform] at hdone
  obtain ⟨-, -, hworld⟩ := ofAgent_converses hconverses ha c
  obtain ⟨hsame, -, hinvocations, -, hasked⟩ := hworld w w' out hperform
  obtain ⟨hstreamed, hunseen⟩ := hasked (by decide)
  exact ⟨p, w, w', out, ha, rfl, hdone, hperform, hsame, hinvocations, hstreamed, hunseen⟩

/-- Not every time that can be set for answers lets the one request be made. -/
theorem Plan.ofAgent_converses_unasked :
    ¬∀ (a : Agent) (step : Step) (systemPrompt : String) (p : Plan) (c : Context) (w : World),
      a.Converses systemPrompt step → Plan.ofAgent a = .ok p → w.cancelAt = none →
      (w.perform (p.run c)).2.streamed =
        w.streamed ++ [⟨systemPrompt, c.history, c.prompt⟩] := by
  intro h
  let a := Agent.conversing "s"
  let step := a.steps.head (by decide)
  let p : Plan := ⟨some a.id, "single", [], .ofStep step⟩
  have hconverses : a.Converses "s" step := ⟨rfl, rfl, rfl, rfl, rfl⟩
  have ha : Plan.ofAgent a = .ok p := by rfl
  have hasked := h a step "s" p (.ofHistory "hello" []) .boundless hconverses ha rfl
  rw [converses_run hconverses ha, default_run, World.perform_openStream,
    World.askStream_of_none _ World.boundless_clock] at hasked
  cases hasked

end Parley
