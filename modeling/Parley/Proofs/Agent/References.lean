import Parley.Proofs.Agent.Names
import Parley.Proofs.Agent.Template

/-!
# References to steps

A template refers to a step by its name between braces (`Template.reference`). In every later step
this is filled in with what the step brought, unless there is a brace in the name
(`Plan.ofAgent_references`). An agent may have such names as well, and then no template can tell
what the step brought (`Template.render_blind`).
-/

namespace Parley

namespace Template

/-- The template that is a name between braces and nothing else. -/
def reference (name : String) : String := "\x7b" ++ name ++ "\x7d"

/-- There is no brace in a name. -/
def IsPlain (name : String) : Prop := ∀ c ∈ name.toList, ¬isBrace c

variable {name : String} {c c' : Context}

/-- What is bound to a name with a brace in it is of no account to any template. -/
theorem render_blind (hname : ¬IsPlain name)
    (h : ∀ other, other ≠ name → c.get? other = c'.get? other) (t : String) :
    render c t = render c' t := by
  obtain ⟨ps, hps⟩ := exists_scans t.toList
  have hfill : ∀ p ∈ ps, p.fill c = p.fill c' := by
    intro p hp
    refine Piece.fill_congr h ?_
    rintro rfl
    exact hname (hps.names_plain _ hp)
  rw [render_scans hps, render_scans hps, List.flatMap_congr hfill]

/-- A name between braces is filled in, whatever it is bound to, exactly if it is plain. -/
theorem render_reference_iff :
    (∀ c, render c (reference name) = c.value name) ↔ IsPlain name := by
  refine ⟨fun h => ?_, fun hname c => render_name hname c⟩
  by_contra hname
  let bare : Context := ⟨[], []⟩
  have value_record (text : String) : (bare.record name text).value name = text := by
    rw [Context.value, Context.get?_record_new (by simp [bare, Context.isBound, Context.get?])]
    rfl
  have hsame : ∀ other, other ≠ name →
      (bare.record name "a").get? other = (bare.record name "b").get? other := by
    intro other hother
    rw [Context.get?_record, Context.get?_record, if_neg hother, if_neg hother]
  have hblind := render_blind hname hsame (reference name)
  rw [h, h, value_record, value_record] at hblind
  exact absurd hblind (by decide)

end Template

namespace Plan

open Template

variable {gs : List GatedPrompt} {seed c c' : Context} {before after stages : List Stage}
  {fault : Option RunError} {s : Stage}

/-- Steps have their turns in order, from the first one on. -/
lemma Prepares.in_order (h : Prepares gs c stages c' fault) : stages.map (·.step) <+: gs := by
  induction h with
  | done => exact List.prefix_rfl
  | skipped _ _ ih => exact (List.prefix_cons_inj _).2 ih
  | answered _ _ _ _ ih => exact (List.prefix_cons_inj _).2 ih
  | failed => exact List.prefix_append [_] _

/-- A context in which something was rendered after a stage: that of a later stage, or the one that
the answer was asked for in. -/
def RenderedAfter (after : List Stage) (log : List Asked) (c later : Context) : Prop :=
  (∃ t ∈ after, later = t.context) ∨ later = c ∧ ∃ r reply, (⟨.openStream r, reply⟩ : Asked) ∈ log

/-- After a step, its name is bound to what it brought. -/
lemma Executes.kept {p : Plan} {log : List Asked} {out : Except RunError Stream} {later : Context}
    (h : p.Executes seed stages log c out) (hseed : seed.Binds []) (hnamed : WellNamed [] p.gated)
    (hstages : stages = before ++ s :: after) (hlater : RenderedAfter after log c later) :
    later.get? s.name = some s.output := by
  obtain ⟨fault, hprepares, hfault⟩ := h.prepares
  obtain ⟨hsound, hleft⟩ := hprepares.sound (follows_nil hseed) hnamed
  obtain ⟨t, ht, rfl⟩ | ⟨rfl, r, reply, hasked⟩ := hlater
  · obtain ⟨between, rest, rfl⟩ := List.append_of_mem ht
    have ht := hsound (before ++ s :: between) t rest (by rw [hstages]; simp)
    exact ht.follows.kept s (by simp)
  · exact (hleft (hfault r reply hasked)).kept s (by simp [hstages])

end Plan

/-- Whatever the model replies to the plan of an agent, run in a new context: in every step after
one whose name has no brace in it, the name between braces stands for what that step brought, which
is nothing if the step was skipped. If the name has a brace in it, then whatever the step brought,
every template stands for the same. -/
theorem Plan.ofAgent_references {a : Agent} {p : Plan} (ha : Plan.ofAgent a = .ok p)
    {prompt : String} {history : List (Sender × String)} {log : List Asked} {c : Context}
    {out : Except RunError Stream} (hrun : (p.run (.ofHistory prompt history)).Ran log (c, out)) :
    (∃ stages, p.Executes (.ofHistory prompt history) stages log c out) ∧
    ∀ stages, p.Executes (.ofHistory prompt history) stages log c out →
      stages.map (·.name) <+: a.steps.dropLast.map (fun s => Text.trim s.name) ∧
      ∀ before s after later, stages = before ++ s :: after → RenderedAfter after log c later →
        (Template.IsPlain s.name →
          Template.render later (Template.reference s.name) = s.output) ∧
        (¬Template.IsPlain s.name → ∀ other : Context,
          (∀ name, name ≠ s.name → other.get? name = later.get? name) →
          ∀ t, Template.render other t = Template.render later t) := by
  obtain ⟨hnamed, front, last, hsteps, hof, -⟩ := ofAgent_ok ha
  have hseed := Context.ofHistory_binds prompt history
  refine ⟨ran_iff_executes.1 hrun, fun stages hexecutes => ⟨?_, ?_⟩⟩
  · obtain ⟨fault, hprepares, -⟩ := hexecutes.prepares
    have horder := hprepares.in_order.map (·.prompt.stepName)
    rw [GatedPrompt.of_names hof, List.map_map] at horder
    rwa [hsteps, List.dropLast_concat]
  · intro before s after later hstages hlater
    have hkept := hexecutes.kept hseed hnamed hstages hlater
    refine ⟨fun hplain => ?_, fun hbraced other hother => Template.render_blind hbraced hother⟩
    rw [Template.render_reference_iff.2 hplain, Context.value, hkept, Option.getD_some]

/-- An agent whose last step answers with what its first one brought. -/
def Agent.echo (name : String) : Agent where
  id := default
  name := "echo"
  steps :=
    [⟨default, name, "", Template.reference Context.promptName, false, false, [], []⟩,
     ⟨default, "answer", "", Template.reference (Text.trim name), false, false, [], []⟩]
  createdAt := default
  updatedAt := default

namespace Plan

open Template

/-- What an agent that echoes does first. -/
def echoed (name : String) : GatedPrompt :=
  ⟨⟨false, []⟩, ⟨Text.trim name, "", reference Context.promptName, false, []⟩⟩

def echo (name : String) : Plan where
  agentId := some (Agent.echo name).id
  name := "echo"
  gated := [echoed name]
  answer := ⟨"answer", "", reference (Text.trim name), false, []⟩

lemma echo_executes (name text : String) (c : Context) (reply : Except RunError Stream) :
    (echo name).Executes c [⟨echoed name, c, .answered ((echoed name).prompt.request c) text⟩]
      [⟨.invoke ((echoed name).prompt.request c), .ok text⟩,
        ⟨.openStream ((echo name).answer.request (c.record (Text.trim name) text)), reply⟩]
      (c.record (Text.trim name) text) reply :=
  have hgate : (echoed name).gate.Open c := ⟨fun h => (by cases h), List.forall_mem_nil _⟩
  .opened (.answered hgate (Prompt.asks_iff.2 rfl) text (.done _)) (Prompt.asks_iff.2 rfl) reply

/-- What a step brought looks like a template itself, and is not read as one. -/
theorem ofAgent_references_echo : ∃ log c r reply,
    Plan.ofAgent (Agent.echo " draft ") = .ok (echo " draft ") ∧
    ((echo " draft ").run (.ofHistory "hello" [])).Ran log (c, reply) ∧
    ⟨.openStream r, reply⟩ ∈ log ∧ (echo " draft ").answer.Asks c r ∧ IsPlain "draft" ∧
    r.humanPrompt = "use \x7bprompt\x7d and \x7b\x7bbraces\x7d\x7d" := by
  have hp : Plan.ofAgent (Agent.echo " draft ") = .ok (echo " draft ") := by rfl
  have hexecutes := echo_executes " draft " "use \x7bprompt\x7d and \x7b\x7bbraces\x7d\x7d"
    (.ofHistory "hello" []) (.error .cancelled)
  have hrun := ran_iff_executes.2 ⟨_, hexecutes⟩
  have hplain : IsPlain "draft" := by simp [IsPlain, isBrace]
  obtain ⟨-, hstages⟩ := ofAgent_references hp hrun
  obtain ⟨-, hrendered⟩ := hstages _ hexecutes
  obtain ⟨hrender, -⟩ := hrendered [] _ [] _ rfl (.inr ⟨rfl, _, _, .tail _ (.head _)⟩)
  exact ⟨_, _, _, _, hp, hrun, .tail _ (.head _), Prompt.asks_iff.2 rfl, hplain, hrender hplain⟩

/-- Nothing can refer to this step: the brace in its name ends the name. -/
theorem reference_lost : ¬∀ (a : Agent) (p : Plan) (prompt : String)
    (history : List (Sender × String)) (stages : List Stage) (log : List Asked) (c : Context)
    (out : Except RunError Stream), Plan.ofAgent a = .ok p →
    (p.run (.ofHistory prompt history)).Ran log (c, out) →
    p.Executes (.ofHistory prompt history) stages log c out →
    ∀ before s after later, stages = before ++ s :: after → RenderedAfter after log c later →
      render later (reference s.name) = s.output := by
  intro h
  have hp : Plan.ofAgent (Agent.echo "a\x7db") = .ok (echo "a\x7db") := by rfl
  have hexecutes := echo_executes "a\x7db" "rain" (.ofHistory "hello" []) (.error .cancelled)
  have hrun := ran_iff_executes.2 ⟨_, hexecutes⟩
  have hrender := h _ _ _ _ _ _ _ _ hp hrun hexecutes [] _ [] _ rfl
    (.inr ⟨rfl, _, _, .tail _ (.head _)⟩)
  have hother : render ((Context.ofHistory "hello" []).record (Text.trim "a\x7db") "rain")
      (reference (Text.trim "a\x7db")) = "b\x7d" := by decide +kernel
  have hlost := hother.symm.trans hrender
  exact absurd hlost (by decide +kernel)

end Plan

end Parley
