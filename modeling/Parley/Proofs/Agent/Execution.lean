import Parley.Proofs.Task.Log
import Parley.Run

/-!
# Executions of a plan

`Plan.Executes` is a sequential account of a plan: one stage after the other, each in the context
that the stages before it left, and then the answer. Running a plan does this and nothing else,
whatever the model replies (`ran_iff_executes`).
-/

namespace Parley

/-- A gate lets a step run: there are messages if it asks for them, and every name it looks at is
bound to a text that is not empty and has the pattern in it. -/
def Gate.Open (g : Gate) (c : Context) : Prop :=
  (g.needsHistory → c.history ≠ []) ∧ ∀ k ∈ g.checks, ∃ text, c.get? k.name = some text ∧
    text ≠ "" ∧ ∀ pattern, k.pattern = some pattern → pattern.search text

lemma Check.holds_iff {k : Check} {c : Context} :
    k.holds c ↔ ∃ text, c.get? k.name = some text ∧ text ≠ "" ∧
      ∀ pattern, k.pattern = some pattern → pattern.search text := by
  cases h : c.get? k.name with
  | none => simp [holds, Context.isSet, Context.value, h]
  | some text => cases hp : k.pattern <;> simp [holds, Context.isSet, Context.value, accepts, h, hp]

lemma Gate.passes_iff {g : Gate} {c : Context} : g.passes c c.hasHistory ↔ g.Open c := by
  simp only [passes, Open, Bool.and_eq_true, List.all_eq_true, Check.holds_iff]
  cases g.needsHistory <;> simp [Context.hasHistory]

/-- A request is what a prompt asks in a context: the templates filled in, and the seeds in front of
the chat, which is there as it stands or not at all. -/
structure Prompt.Asks (p : Prompt) (c : Context) (r : Request) : Prop where
  system : r.systemPrompt = Template.render c p.systemTemplate
  human : r.humanPrompt = Template.render c p.messageTemplate
  history : ∃ seeds, r.history = seeds ++ (if p.includeHistory then c.history else []) ∧
    seeds.map (·.role) = p.seeds.map (·.sender) ∧
    seeds.map (·.content) = p.seeds.map fun m => Template.render c m.content

lemma Prompt.asks_iff {p : Prompt} {c : Context} {r : Request} :
    p.Asks c r ↔ r = p.request c := by
  refine ⟨fun ⟨hsystem, hhuman, seeds, hhistory, hroles, hcontents⟩ => ?_, ?_⟩
  · have hseeds : seeds = p.seeds.map fun m => ⟨m.sender, Template.render c m.content⟩ := by
      refine List.ext_getElem (by simpa using congrArg List.length hroles) fun i h₁ h₂ => ?_
      have hrole := congrArg (·[i]?) hroles
      have hcontent := congrArg (·[i]?) hcontents
      simp only [List.length_map] at h₂
      simp only [List.getElem?_map, List.getElem?_eq_getElem h₁, List.getElem?_eq_getElem h₂,
        Option.map_some, Option.some.injEq] at hrole hcontent
      rw [List.getElem_map, ← hrole, ← hcontent]
    obtain ⟨system, history, human⟩ := r
    simp_all [Prompt.request]
  · rintro rfl
    exact ⟨rfl, rfl, _, rfl, by simp, by simp⟩

namespace Plan

/-- What became of a step: its gate was shut, or the model was asked and gave a text or an error. -/
inductive Outcome
  | skipped
  | answered (r : Request) (text : String)
  | failed (r : Request) (e : RunError)

/-- A step whose turn came in a context. -/
structure Stage where
  step : GatedPrompt
  context : Context
  outcome : Outcome

namespace Stage

def name (s : Stage) : String := s.step.prompt.stepName

/-- The text that the step is recorded with. -/
def output (s : Stage) : String :=
  match s.outcome with
  | .answered _ text => text
  | _ => ""

def calls (s : Stage) : List Asked :=
  match s.outcome with
  | .skipped => []
  | .answered r text => [⟨.invoke r, .ok text⟩]
  | .failed r e => [⟨.invoke r, .error e⟩]

end Stage

/-- The stages of some steps from a context on, the context they leave, and the error that ended
them early. -/
inductive Prepares : List GatedPrompt → Context → List Stage → Context → Option RunError → Prop
  | done (c : Context) : Prepares [] c [] c none
  | skipped {g : GatedPrompt} {rest : List GatedPrompt} {c c' : Context} {stages : List Stage}
    {fault : Option RunError} (hgate : ¬g.gate.Open c)
    (h : Prepares rest (c.record g.prompt.stepName "") stages c' fault) :
    Prepares (g :: rest) c (⟨g, c, .skipped⟩ :: stages) c' fault
  | answered {g : GatedPrompt} {rest : List GatedPrompt} {c c' : Context} {stages : List Stage}
    {fault : Option RunError} {r : Request} (hgate : g.gate.Open c) (hask : g.prompt.Asks c r)
    (text : String) (h : Prepares rest (c.record g.prompt.stepName text) stages c' fault) :
    Prepares (g :: rest) c (⟨g, c, .answered r text⟩ :: stages) c' fault
  | failed {g : GatedPrompt} {rest : List GatedPrompt} {c : Context} {r : Request}
    (hgate : g.gate.Open c) (hask : g.prompt.Asks c r) (e : RunError) :
    Prepares (g :: rest) c [⟨g, c, .failed r e⟩] c (some e)

/-- A whole execution: its stages, all its calls, the context it leaves and what it brings. The
answer is asked for once, and only if no stage failed. -/
inductive Executes (p : Plan) (c : Context) :
    List Stage → List Asked → Context → Except RunError Stream → Prop
  | failed {stages : List Stage} {c' : Context} {e : RunError}
    (h : Prepares p.gated c stages c' (some e)) :
    Executes p c stages (stages.flatMap (·.calls)) c' (.error e)
  | opened {stages : List Stage} {c' : Context} {r : Request}
    (h : Prepares p.gated c stages c' none) (hask : p.answer.Asks c' r)
    (reply : Except RunError Stream) :
    Executes p c stages (stages.flatMap (·.calls) ++ [⟨.openStream r, reply⟩]) c' reply

/-- An error as the outcome of the preparing steps. -/
def faultOf : Except RunError Unit → Option RunError
  | .ok () => none
  | .error e => some e

lemma ran_prepare_iff {gs : List GatedPrompt} {c c' : Context} {log : List Asked}
    {out : Except RunError Unit} : (prepare gs c).Ran log (c', out) ↔
      ∃ stages, Prepares gs c stages c' (faultOf out) ∧ log = stages.flatMap (·.calls) := by
  induction gs generalizing c log with
  | nil =>
    rw [prepare, Task.ran_pure_iff]
    constructor
    · rintro ⟨rfl, h⟩
      cases h
      exact ⟨[], .done _, rfl⟩
    · rintro ⟨stages, h, rfl⟩
      rcases out with e | ⟨⟩ <;> cases h
      exact ⟨rfl, rfl⟩
  | cons g rest ih =>
    rw [prepare]
    by_cases hgate : g.gate.Open c
    · rw [if_pos (Gate.passes_iff.2 hgate), Task.invoke, Task.ran_call_bind_iff]
      constructor
      · rintro ⟨e | text, tail, rfl, h⟩
        · obtain ⟨rfl, h⟩ := Task.ran_pure_iff.1 h
          cases h
          exact ⟨_, .failed hgate (Prompt.asks_iff.2 rfl) e, rfl⟩
        · obtain ⟨stages, hstages, rfl⟩ := ih.1 h
          exact ⟨_, .answered hgate (Prompt.asks_iff.2 rfl) text hstages, rfl⟩
      · rintro ⟨stages, h, rfl⟩
        generalize hfault : faultOf out = fault at h
        cases h with
        | skipped hshut => exact absurd hgate hshut
        | answered _ hask text h =>
          subst hfault
          obtain rfl := Prompt.asks_iff.1 hask
          exact ⟨.ok text, _, rfl, ih.2 ⟨_, h, rfl⟩⟩
        | failed _ hask e =>
          obtain rfl := Prompt.asks_iff.1 hask
          rcases out with e | ⟨⟩ <;> cases hfault
          exact ⟨.error e, [], rfl, .done _⟩
    · rw [if_neg (mt Gate.passes_iff.1 hgate), ih]
      constructor
      · rintro ⟨stages, h, rfl⟩
        exact ⟨_, .skipped hgate h, rfl⟩
      · rintro ⟨stages, h, rfl⟩
        generalize faultOf out = fault at h
        cases h with
        | skipped _ h => exact ⟨_, h, rfl⟩
        | answered hopen => exact absurd hopen hgate
        | failed hopen => exact absurd hopen hgate

/-- Whatever is replied to it, a run of a plan is an execution, and every execution can be run. -/
theorem ran_iff_executes {p : Plan} {c c' : Context} {log : List Asked}
    {out : Except RunError Stream} :
    (p.run c).Ran log (c', out) ↔ ∃ stages, p.Executes c stages log c' out := by
  rw [run, Task.ran_bind_iff]
  constructor
  · rintro ⟨front, tail, ⟨c₁, e | ⟨⟩⟩, rfl, hprepare, h⟩
    · obtain ⟨stages, hstages, rfl⟩ := ran_prepare_iff.1 hprepare
      obtain ⟨rfl, h⟩ := Task.ran_pure_iff.1 h
      cases h
      rw [List.append_nil]
      exact ⟨stages, .failed hstages⟩
    · obtain ⟨stages, hstages, rfl⟩ := ran_prepare_iff.1 hprepare
      obtain ⟨reply, rest, rfl, hrest⟩ := Task.ran_call_bind_iff.1 h
      obtain ⟨rfl, hout⟩ := Task.ran_pure_iff.1 hrest
      cases hout
      exact ⟨stages, .opened hstages (Prompt.asks_iff.2 rfl) _⟩
  · rintro ⟨stages, h⟩
    cases h with
    | failed h =>
      have hprepare := (@ran_prepare_iff _ _ _ _ (.error _)).2 ⟨stages, h, rfl⟩
      exact ⟨_, [], _, (List.append_nil _).symm, hprepare, .done _⟩
    | opened h hask =>
      obtain rfl := Prompt.asks_iff.1 hask
      have hprepare := (@ran_prepare_iff _ _ _ _ (.ok ())).2 ⟨stages, h, rfl⟩
      exact ⟨_, _, _, rfl, hprepare, .ask _ (.done _)⟩

end Plan

/-- More was recorded in a context: the chat is the same, and a name that was bound keeps its
text. -/
structure Context.Grows (c c' : Context) : Prop where
  history : c'.history = c.history
  get? : ∀ name text, c.get? name = some text → c'.get? name = some text

namespace Context

lemma Grows.refl (c : Context) : c.Grows c := ⟨rfl, fun _ _ h => h⟩

lemma Grows.trans {c c' c'' : Context} (h : c.Grows c') (h' : c'.Grows c'') : c.Grows c'' :=
  ⟨h'.history.trans h.history, fun name text hc => h'.get? name text (h.get? name text hc)⟩

lemma record_grows (c : Context) (key text : String) : c.Grows (c.record key text) :=
  ⟨c.history_record key text, fun name text h => by rw [get?_record, h, Option.some_or]⟩

end Context

namespace Plan

lemma Prepares.grows {gs : List GatedPrompt} {c c' : Context} {stages : List Stage}
    {fault : Option RunError} (h : Prepares gs c stages c' fault) : c.Grows c' := by
  induction h with
  | done c => exact .refl c
  | skipped _ _ ih => exact (Context.record_grows ..).trans ih
  | answered _ _ _ _ ih => exact (Context.record_grows ..).trans ih
  | failed => exact .refl _

theorem Executes.grows {p : Plan} {c c' : Context} {stages : List Stage} {log : List Asked}
    {out : Except RunError Stream} (h : p.Executes c stages log c' out) : c.Grows c' := by
  cases h with
  | failed h => exact h.grows
  | opened h => exact h.grows

lemma Stage.calls_invoke {s : Stage} {x : Asked} (h : x ∈ s.calls) :
    ∃ r reply, x = ⟨.invoke r, reply⟩ := by
  unfold calls at h
  split at h
  · cases h
  · exact ⟨_, _, List.mem_singleton.1 h⟩
  · exact ⟨_, _, List.mem_singleton.1 h⟩

lemma Executes.calls_model {p : Plan} {c c' : Context} {stages : List Stage} {log : List Asked}
    {out : Except RunError Stream} (h : p.Executes c stages log c' out) :
    ∀ x ∈ log, (∃ r reply, x = ⟨.invoke r, reply⟩) ∨ ∃ r reply, x = ⟨.openStream r, reply⟩ := by
  intro x hx
  cases h with
  | failed h =>
    obtain ⟨s, -, hs⟩ := List.mem_flatMap.1 hx
    exact .inl (s.calls_invoke hs)
  | opened h =>
    obtain hx | hx := List.mem_append.1 hx
    · obtain ⟨s, -, hs⟩ := List.mem_flatMap.1 hx
      exact .inl (s.calls_invoke hs)
    · exact .inr ⟨_, _, List.mem_singleton.1 hx⟩

/-- The error that ends a preparation is the reply to its last call. -/
lemma Prepares.fault_replied {gs : List GatedPrompt} {c c' : Context} {stages : List Stage}
    {e : RunError} (h : Prepares gs c stages c' (some e)) :
    ∃ front r, stages.flatMap (·.calls) = front ++ [⟨.invoke r, .error e⟩] := by
  generalize hfault : some e = fault at h
  induction h with
  | done => cases hfault
  | skipped _ _ ih =>
    obtain ⟨front, r, h⟩ := ih hfault
    exact ⟨front, r, h⟩
  | answered _ _ _ _ ih =>
    obtain ⟨front, r, h⟩ := ih hfault
    exact ⟨_ :: front, r, by rw [List.flatMap_cons, h]; rfl⟩
  | failed =>
    cases hfault
    exact ⟨[], _, rfl⟩

lemma Prepares.all_answered {gs : List GatedPrompt} {c c' : Context} {stages : List Stage}
    (h : Prepares gs c stages c' none) :
    ∀ x ∈ stages.flatMap (·.calls), ∃ r text, x = ⟨.invoke r, .ok text⟩ := by
  generalize hfault : none = fault at h
  induction h with
  | done => exact List.forall_mem_nil _
  | skipped _ _ ih => exact ih hfault
  | answered _ _ text _ ih =>
    rw [List.flatMap_cons]
    exact List.forall_mem_cons.2 ⟨⟨_, text, rfl⟩, ih hfault⟩
  | failed => cases hfault

/-- An execution makes no errors of its own: what it ends with is the reply to its last call. -/
theorem Executes.error_replied {p : Plan} {c c' : Context} {stages : List Stage}
    {log : List Asked} {e : RunError} (h : p.Executes c stages log c' (.error e)) :
    ∃ front r, log = front ++ [⟨.invoke r, .error e⟩] ∨
      log = front ++ [⟨.openStream r, .error e⟩] := by
  cases h with
  | failed h =>
    obtain ⟨front, r, h⟩ := h.fault_replied
    exact ⟨front, r, .inl h⟩
  | opened h => exact ⟨_, _, .inr rfl⟩

/-- An execution that brings a stream was never told of an error. -/
theorem Executes.ok_replied {p : Plan} {c c' : Context} {stages : List Stage} {log : List Asked}
    {stream : Stream} (h : p.Executes c stages log c' (.ok stream)) :
    ∀ x ∈ log, (∃ r text, x = ⟨.invoke r, .ok text⟩) ∨ ∃ r, x = ⟨.openStream r, .ok stream⟩ := by
  cases h with
  | opened h =>
    intro x hx
    obtain hx | hx := List.mem_append.1 hx
    · exact .inl (h.all_answered x hx)
    · exact .inr ⟨_, List.mem_singleton.1 hx⟩

end Plan

end Parley
