import Mathlib.Data.List.Forall2
import Mathlib.Tactic.SplitIfs
import Parley.Proofs.Agent.Execution

/-!
# Names in a plan

An agent that is a plan (`Plan.ofAgent`) has a new name for each step, and its conditions look at
the prompt or at steps before (`WellNamed`). So when a step's turn comes, whatever it looks at is
bound and its own name is not (`Prepares.sound`), and what it brings stays bound to its name.
-/

namespace Parley

lemma Except.bind_ok_iff {ε α β : Type} {x : Except ε α} {f : α → Except ε β} {b : β} :
    (x >>= f) = .ok b ↔ ∃ a, x = .ok a ∧ f a = .ok b := by
  cases x with
  | error e => exact ⟨fun h => (by cases h), fun ⟨a, h, _⟩ => (by cases h)⟩
  | ok a => exact ⟨fun h => ⟨a, rfl, h⟩, fun ⟨_, h, hf⟩ => (by cases h; exact hf)⟩

namespace Check

lemma ofCondition_name {c : Condition} {k : Check} (h : ofCondition c = .ok k) :
    k.name = c.name := by
  unfold ofCondition at h
  split at h
  · cases h
    rfl
  · split at h <;> cases h
    rfl

lemma ofConditions_name {cs : List Condition} {ks : List Check} {k : Check}
    (h : cs.mapM ofCondition = .ok ks) (hk : k ∈ ks) : ∃ c ∈ cs, k.name = c.name := by
  induction cs generalizing ks with
  | nil =>
    cases h
    cases hk
  | cons c cs ih =>
    rw [List.mapM_cons, Except.bind_ok_iff] at h
    obtain ⟨k₁, hc, h⟩ := h
    obtain ⟨ks₁, hcs, h⟩ := Except.bind_ok_iff.1 h
    cases h
    obtain rfl | hk := List.mem_cons.1 hk
    · exact ⟨c, List.mem_cons_self, ofCondition_name hc⟩
    · obtain ⟨d, hd, hname⟩ := ih hcs hk
      exact ⟨d, List.mem_cons_of_mem _ hd, hname⟩

end Check

lemma Gate.ofStep_name {s : Step} {g : Gate} {k : Check} (h : ofStep s = .ok g)
    (hk : k ∈ g.checks) : ∃ c ∈ s.conditions, k.name = c.name := by
  obtain ⟨ks, hks, h⟩ := Except.bind_ok_iff.1 h
  cases h
  exact Check.ofConditions_name hks hk

/-- A gated prompt is what a step of an agent asks, behind the step's conditions. -/
structure GatedPrompt.Of (s : Step) (g : GatedPrompt) : Prop where
  gate : Gate.ofStep s = .ok g.gate
  prompt : g.prompt = .ofStep s

lemma GatedPrompt.of_names {steps : List Step} {gated : List GatedPrompt}
    (h : List.Forall₂ Of steps gated) :
    gated.map (·.prompt.stepName) = steps.map fun s => Text.trim s.name := by
  induction h with
  | nil => rfl
  | cons h _ ih => rw [List.map_cons, List.map_cons, ih, h.prompt, Prompt.ofStep]

namespace Plan

lemma strayCondition?_eq_none_iff {earlier : List String} {s : Step} :
    strayCondition? earlier s = none ↔
      ∀ c ∈ s.conditions, c.name = Context.promptName ∨ c.name ∈ earlier := by
  simp [strayCondition?, Decidable.or_iff_not_imp_left]

/-- A step passes if its trimmed name is not empty, not taken, and it looks at what is there. -/
lemma checkStep_ok_iff {earlier : List String} {position : Nat} {s : Step} {name : String} :
    checkStep earlier position s = .ok name ↔
      name = Text.trim s.name ∧ name ≠ "" ∧ ¬isReserved name ∧ name ∉ earlier ∧
        ∀ c ∈ s.conditions, c.name = Context.promptName ∨ c.name ∈ earlier := by
  unfold checkStep
  rw [← strayCondition?_eq_none_iff]
  dsimp only
  constructor
  · intro h
    cases hstray : strayCondition? earlier s with
    | some c =>
      rw [hstray] at h
      split_ifs at h
    | none =>
      rw [hstray] at h
      split_ifs at h with hempty hreserved htaken
      cases h
      exact ⟨rfl, hempty, hreserved, by simpa using htaken, rfl⟩
  · rintro ⟨rfl, hempty, hreserved, htaken, hstray⟩
    rw [if_neg hempty, if_neg hreserved, hstray]
    exact if_neg (by simpa using htaken)

/-- Each step has a new name, and looks at the prompt and at steps before it only. -/
inductive WellNamed : List String → List GatedPrompt → Prop
  | nil (earlier : List String) : WellNamed earlier []
  | cons {earlier : List String} {g : GatedPrompt} {rest : List GatedPrompt}
    (hfree : ¬isReserved g.prompt.stepName) (hnew : g.prompt.stepName ∉ earlier)
    (hchecks : ∀ k ∈ g.gate.checks, k.name = Context.promptName ∨ k.name ∈ earlier)
    (h : WellNamed (g.prompt.stepName :: earlier) rest) : WellNamed earlier (g :: rest)

theorem ofSteps_ok {earlier : List String} {position : Nat} {steps : List Step}
    {gated : List GatedPrompt} {answer : Prompt}
    (h : ofSteps earlier position steps = .ok (gated, answer)) :
    WellNamed earlier gated ∧ ∃ front last, steps = front ++ [last] ∧
      List.Forall₂ GatedPrompt.Of front gated ∧ answer = .ofStep last := by
  induction steps generalizing earlier position gated with
  | nil => cases h
  | cons s rest ih =>
    cases rest with
    | nil =>
      obtain ⟨name, -, h⟩ := Except.bind_ok_iff.1 h
      split_ifs at h
      cases h
      exact ⟨.nil _, [], s, rfl, .nil, rfl⟩
    | cons s₁ rest =>
      obtain ⟨name, hname, h⟩ := Except.bind_ok_iff.1 h
      obtain ⟨gate, hgate, h⟩ := Except.bind_ok_iff.1 h
      obtain ⟨⟨gated₁, answer₁⟩, hrest, h⟩ := Except.bind_ok_iff.1 h
      cases h
      obtain ⟨rfl, -, hfree, hnew, hconditions⟩ := checkStep_ok_iff.1 hname
      obtain ⟨hnamed, front, last, hsteps, hof, hanswer⟩ := ih hrest
      refine ⟨.cons hfree hnew (fun k hk => ?_) hnamed, s :: front, last, ?_,
        .cons ⟨hgate, rfl⟩ hof, hanswer⟩
      · obtain ⟨c, hc, hk⟩ := Gate.ofStep_name hgate hk
        exact hk ▸ hconditions c hc
      · rw [hsteps, List.cons_append]

theorem ofAgent_ok {a : Agent} {p : Plan} (h : ofAgent a = .ok p) :
    WellNamed [] p.gated ∧ ∃ front last, a.steps = front ++ [last] ∧
      List.Forall₂ GatedPrompt.Of front p.gated ∧ p.answer = .ofStep last := by
  obtain ⟨⟨gated, answer⟩, hsteps, h⟩ := Except.bind_ok_iff.1 h
  cases h
  exact ofSteps_ok hsteps

end Plan

namespace Context

lemma isBound_record {c : Context} {name key text : String} :
    (c.record key text).isBound name ↔ c.isBound name ∨ name = key := by
  rw [isBound, isBound, get?_record]
  split_ifs with h <;> simp [h]

lemma bindings_record {c : Context} {name text : String} (h : ¬c.isBound name) :
    (c.record name text).bindings = c.bindings ++ [(name, text)] := by
  rw [record, if_neg h]

lemma get?_record_new {c : Context} {name text : String} (h : ¬c.isBound name) :
    (c.record name text).get? name = some text := by
  rw [get?_record, Option.not_isSome_iff_eq_none.1 h, if_pos rfl, Option.none_or]

/-- The names that are bound are those bound before any step runs, and some more. -/
def Binds (c : Context) (names : List String) : Prop :=
  ∀ name, c.isBound name ↔ Plan.isReserved name ∨ name ∈ names

lemma Binds.record {c : Context} {names : List String} (h : c.Binds names) (key text : String) :
    (c.record key text).Binds (key :: names) := fun name => by
  rw [isBound_record, h, List.mem_cons, or_assoc, or_comm (a := name = key)]

lemma ofHistory_binds (prompt : String) (history : List (Sender × String)) :
    (ofHistory prompt history).Binds [] := fun name => by
  simp [ofHistory, new, isBound, get?, List.lookup_isSome_iff, Plan.isReserved]

end Context

namespace Plan

/-- A context after some stages that began with another one: their outputs are bound to their names,
in order, and nothing else is new. -/
structure Follows (seed : Context) (done : List Stage) (c : Context) : Prop where
  bindings : c.bindings = seed.bindings ++ done.map fun s => (s.name, s.output)
  history : c.history = seed.history
  binds : c.Binds (done.map (·.name)).reverse
  kept : ∀ s ∈ done, c.get? s.name = some s.output

/-- What a step finds when its turn comes after some stages: it looks at the prompt or at one of
these stages, and its own name is not bound. -/
structure Stage.Sound (seed : Context) (before : List Stage) (s : Stage) : Prop where
  follows : Follows seed before s.context
  known : ∀ k ∈ s.step.gate.checks, k.name = Context.promptName ∨ ∃ b ∈ before, b.name = k.name
  fresh : ¬s.context.isBound s.name

variable {gs : List GatedPrompt} {seed c c' : Context} {before done stages : List Stage}
  {fault : Option RunError} {s : Stage}

lemma follows_nil (h : seed.Binds []) : Follows seed [] seed :=
  ⟨(List.append_nil _).symm, rfl, h, fun _ hs => (by cases hs)⟩

lemma Follows.grows (h : Follows seed done c) : seed.Grows c := by
  refine ⟨h.history, fun name text hseed => ?_⟩
  rw [Context.get?, h.bindings, List.lookup_append,
    show seed.bindings.lookup name = some text from hseed, Option.some_or]

lemma Stage.Sound.next (h : s.Sound seed done) :
    Follows seed (done ++ [s]) (s.context.record s.name s.output) where
  bindings := by
    rw [Context.bindings_record h.fresh, h.follows.bindings, List.append_assoc, List.map_append,
      List.map_singleton]
  history := (s.context.history_record ..).trans h.follows.history
  binds := by
    rw [List.map_append, List.reverse_append]
    exact h.follows.binds.record s.name s.output
  kept b hb := by
    obtain hb | hb := List.mem_append.1 hb
    · exact (Context.record_grows ..).get? _ _ (h.follows.kept b hb)
    · obtain rfl := List.mem_singleton.1 hb
      exact Context.get?_record_new h.fresh

/-- The first stage of some, and the rest from the context after it unless it failed. -/
lemma Prepares.first {g : GatedPrompt} (h : Prepares (g :: gs) c stages c' fault) :
    ∃ first rest, stages = first :: rest ∧ first.step = g ∧ first.context = c ∧
      (Prepares gs (c.record first.name first.output) rest c' fault ∨
        ∃ r e, first.outcome = .failed r e ∧ rest = [] ∧ fault = some e) := by
  cases h with
  | skipped _ h => exact ⟨_, _, rfl, rfl, rfl, .inl h⟩
  | answered _ _ text h => exact ⟨_, _, rfl, rfl, rfl, .inl h⟩
  | failed _ _ e => exact ⟨_, _, rfl, rfl, rfl, .inr ⟨_, _, rfl, rfl, rfl⟩⟩

theorem Prepares.sound (h : Prepares gs c stages c' fault) (hfollows : Follows seed done c)
    (hnamed : WellNamed (done.map (·.name)).reverse gs) :
    (∀ before s after, stages = before ++ s :: after → s.Sound seed (done ++ before)) ∧
      (fault = none → Follows seed (done ++ stages) c') := by
  induction gs generalizing c done stages with
  | nil =>
    cases h
    exact ⟨fun before s after h => by simp at h, fun _ => by rwa [List.append_nil]⟩
  | cons g gs ih =>
    cases hnamed with
    | cons hfree hnew hchecks hnamed =>
    obtain ⟨first, tail, rfl, rfl, rfl, hrest⟩ := h.first
    have hfirst : first.Sound seed done :=
      { follows := hfollows
        known := fun k hk => by simpa using hchecks k hk
        fresh := fun hbound => ((hfollows.binds _).1 hbound).elim hfree hnew }
    have hdone : ((done ++ [first]).map (·.name)).reverse =
        first.name :: (done.map (·.name)).reverse := by simp
    obtain hrest | ⟨r, e, -, rfl, rfl⟩ := hrest
    · obtain ⟨hsound, hleft⟩ := ih hrest hfirst.next (by rw [hdone]; exact hnamed)
      rw [List.append_assoc, List.singleton_append] at hleft
      refine ⟨fun before s after hstages => ?_, hleft⟩
      cases before with
      | nil =>
        obtain ⟨rfl, -⟩ := List.cons.inj hstages
        rwa [List.append_nil]
      | cons b before =>
        obtain ⟨rfl, htail⟩ := List.cons.inj hstages
        simpa using hsound before s after htail
    · refine ⟨fun before s after hstages => ?_, fun hfault => by cases hfault⟩
      cases before with
      | nil =>
        obtain ⟨rfl, -⟩ := List.cons.inj hstages
        rwa [List.append_nil]
      | cons b before => simp at hstages

/-- Unless a step failed, every step had its turn. -/
lemma Prepares.steps (h : Prepares gs c stages c' none) : stages.map (·.step) = gs := by
  generalize hfault : none = fault at h
  induction h with
  | done => rfl
  | skipped _ _ ih => rw [List.map_cons, ih hfault]
  | answered _ _ _ _ ih => rw [List.map_cons, ih hfault]
  | failed => cases hfault

lemma Executes.prepares {p : Plan} {log : List Asked} {out : Except RunError Stream}
    (h : p.Executes c stages log c' out) : ∃ fault, Prepares p.gated c stages c' fault ∧
      ∀ r reply, ⟨.openStream r, reply⟩ ∈ log → fault = none := by
  cases h with
  | failed h =>
    refine ⟨_, h, fun r reply hmem => ?_⟩
    obtain ⟨s, -, hs⟩ := List.mem_flatMap.1 hmem
    obtain ⟨r', reply', h⟩ := s.calls_invoke hs
    cases h
  | opened h => exact ⟨_, h, fun _ _ _ => rfl⟩

end Plan

/-- Whatever the model replies to the plan of an agent, run in a new context: each name that a step
looks at is bound by then, to the prompt or to what the step of that name brought, and its own name
is not bound before it is recorded. If the answer is asked for, every step's trimmed name is bound
to what the step brought, and nothing else is new. The prompt, the transcript and the chat stay as
they were given, and an error at the end is the model's reply to the last call, not one of the run's
own. A run that is dropped is the beginning of such a run (`Task.Waits.exists_ran`). -/
theorem Plan.ofAgent_run_bound {a : Agent} {p : Plan} (ha : Plan.ofAgent a = .ok p)
    {prompt : String} {history : List (Sender × String)} {log : List Asked} {c : Context}
    {out : Except RunError Stream} (hrun : (p.run (.ofHistory prompt history)).Ran log (c, out)) :
    ∃ front last stages, a.steps = front ++ [last] ∧ List.Forall₂ GatedPrompt.Of front p.gated ∧
      p.answer = .ofStep last ∧ p.Executes (.ofHistory prompt history) stages log c out ∧
      (∀ before s after, stages = before ++ s :: after →
        (∀ k ∈ s.step.gate.checks,
          (k.name = Context.promptName ∧ s.context.get? k.name = some prompt) ∨
            ∃ b ∈ before, b.name = k.name ∧ s.context.get? k.name = some b.output) ∧
        ¬s.context.isBound s.name) ∧
      ((∃ r reply, (⟨.openStream r, reply⟩ : Asked) ∈ log) →
        stages.map (·.name) = front.map (fun s => Text.trim s.name) ∧
        (∀ s ∈ stages, c.get? s.name = some s.output) ∧
        c.bindings = (Context.ofHistory prompt history).bindings ++
          stages.map fun s => (s.name, s.output)) ∧
      c.get? Context.promptName = some prompt ∧
      c.get? Context.transcriptName = some (Context.transcript c.history) ∧
      c.history = history.map (fun (role, content) => ⟨role, content⟩) ∧
      ∀ e, out = .error e → ∃ front r, log = front ++ [⟨.invoke r, .error e⟩] ∨
        log = front ++ [⟨.openStream r, .error e⟩] := by
  obtain ⟨hnamed, front, last, hsteps, hof, hanswer⟩ := ofAgent_ok ha
  obtain ⟨stages, hexecutes⟩ := ran_iff_executes.1 hrun
  obtain ⟨fault, hprepares, hfault⟩ := hexecutes.prepares
  have hseed := follows_nil (Context.ofHistory_binds prompt history)
  obtain ⟨hsound, hleft⟩ := hprepares.sound hseed hnamed
  have hgrows := hexecutes.grows
  refine ⟨front, last, stages, hsteps, hof, hanswer, hexecutes, fun before s after hstages => ?_,
    fun ⟨r, reply, hmem⟩ => ?_, hgrows.get? _ _ rfl, ?_, hgrows.history, ?_⟩
  · have hs := hsound before s after hstages
    refine ⟨fun k hk => ?_, hs.fresh⟩
    obtain hprompt | ⟨b, hb, hname⟩ := hs.known k hk
    · exact .inl ⟨hprompt, hprompt ▸ hs.follows.grows.get? _ _ rfl⟩
    · exact .inr ⟨b, hb, hname, hname ▸ hs.follows.kept b hb⟩
  · obtain rfl := hfault r reply hmem
    have hfollows := hleft rfl
    refine ⟨?_, hfollows.kept, hfollows.bindings⟩
    rw [← GatedPrompt.of_names hof, ← hprepares.steps, List.map_map]
    rfl
  · rw [hgrows.history]
    exact hgrows.get? _ _ rfl
  · rintro e rfl
    exact hexecutes.error_replied

/-- One step in a new chat is skipped, and the next one runs. -/
def Agent.sketch : Agent where
  id := default
  name := "sketch"
  steps :=
    [⟨default, " outline ", "", "\x7bprompt\x7d", false, true, [], []⟩,
     ⟨default, "draft", "", "\x7boutline\x7d", false, false, [⟨"prompt", none⟩], []⟩,
     ⟨default, "answer", "", "\x7bdraft\x7d", true, false, [], []⟩]
  createdAt := default
  updatedAt := default

theorem Plan.ofAgent_run_bound_sketch :
    ∃ p log c, Plan.ofAgent Agent.sketch = .ok p ∧
      (p.run (.ofHistory "hi" [])).Ran log (c, .error .cancelled) ∧
      ∃ stages, p.Executes (.ofHistory "hi" []) stages log c (.error .cancelled) ∧
        stages.map (·.name) = ["outline", "draft"] ∧
        ∀ s ∈ stages, c.get? s.name = some s.output := by
  let p : Plan :=
    { agentId := some Agent.sketch.id
      name := "sketch"
      gated := [⟨⟨true, []⟩, .ofStep Agent.sketch.steps[0]⟩,
        ⟨⟨false, [⟨"prompt", none⟩]⟩, .ofStep Agent.sketch.steps[1]⟩]
      answer := .ofStep Agent.sketch.steps[2] }
  have hp : Plan.ofAgent Agent.sketch = .ok p := by rfl
  have hopen : Gate.Open ⟨false, [⟨"prompt", none⟩]⟩
      ((Context.ofHistory "hi" []).record "outline" "") := by
    refine ⟨fun h => (by cases h), fun k hk => ⟨"hi", ?_, by decide, ?_⟩⟩ <;>
      obtain rfl := List.mem_singleton.1 hk
    · decide
    · exact fun pattern h => by cases h
  have hexecutes : p.Executes (.ofHistory "hi" []) _ _ _ (.error .cancelled) :=
    .opened (.skipped (fun h => h.1 rfl rfl) (.answered hopen (Prompt.asks_iff.2 rfl) "A draft."
      (.done _))) (Prompt.asks_iff.2 rfl) _
  have hrun := ran_iff_executes.2 ⟨_, hexecutes⟩
  obtain ⟨front, last, stages, hsteps, -, -, hexecutes, -, hleft, -⟩ := ofAgent_run_bound hp hrun
  have hfront : front = Agent.sketch.steps.dropLast := by rw [hsteps, List.dropLast_concat]
  obtain ⟨hnames, hkept, -⟩ := hleft ⟨_, _, List.mem_append_right _ (.head _)⟩
  refine ⟨p, _, _, hp, hrun, stages, hexecutes, ?_, hkept⟩
  rw [hnames, hfront]
  decide +kernel

end Parley
