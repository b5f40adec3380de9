import Parley.Proofs.Agent.Names
import Parley.Proofs.Server.Model

/-!
# Earlier steps do not depend on later ones

Two agents that begin with the same steps are run from one context. As long as the model replies
alike to like requests (`Asked.Consistent`), they go through these steps in the same way
(`Prepares.fork`), whatever comes after.
-/

namespace Parley

namespace Asked

/-- In two records of calls, the same request after the same calls and replies is replied to
alike. -/
def Consistent (log log' : List Asked) : Prop :=
  ∀ front r reply reply' rest rest', log = front ++ ⟨.invoke r, reply⟩ :: rest →
    log' = front ++ ⟨.invoke r, reply'⟩ :: rest' → reply = reply'

/-- Every reply is a function of the request and of how many calls there were before. -/
def AnsweredBy (model : Nat → Request → Except RunError String) (log : List Asked) : Prop :=
  ∀ front r reply rest, log = front ++ ⟨.invoke r, reply⟩ :: rest → reply = model front.length r

variable {log log' : List Asked}

lemma AnsweredBy.consistent {model : Nat → Request → Except RunError String}
    (h : AnsweredBy model log) (h' : AnsweredBy model log') : Consistent log log' := by
  intro front r reply reply' rest rest' hlog hlog'
  rw [h front r reply rest hlog, h' front r reply' rest' hlog']

lemma Consistent.tail {x : Asked} (h : Consistent (x :: log) (x :: log')) :
    Consistent log log' := by
  intro front r reply reply' rest rest' hlog hlog'
  exact h (x :: front) r reply reply' rest rest' (by rw [hlog]; rfl) (by rw [hlog']; rfl)

end Asked

namespace Task

variable {σ : Type} {answer : (c : Call) → σ → Option c.Reply × σ} {s s₁ s₂ : σ}
  {log log' : List Asked}

/-- The same calls and replies lead from a state to one state only. -/
lemma Replied.unique (h : Replied answer s log s₁) (h' : Replied answer s log s₂) : s₁ = s₂ := by
  induction h with
  | none =>
    cases h'
    rfl
  | next hx _ ih =>
    cases h' with
    | next hx' h' =>
      rw [hx] at hx'
      cases hx'
      exact ih h'

/-- One state replies consistently. -/
lemma Replied.consistent (h : Replied answer s log s₁) (h' : Replied answer s log' s₂) :
    Asked.Consistent log log' := by
  intro front r reply reply' rest rest' hlog hlog'
  subst hlog hlog'
  obtain ⟨s₃, hfront, h⟩ := replied_append_iff.1 h
  obtain ⟨s₄, hfront', h'⟩ := replied_append_iff.1 h'
  obtain rfl := hfront.unique hfront'
  obtain ⟨s₅, hreply, -⟩ := replied_cons_iff.1 h
  obtain ⟨s₆, hreply', -⟩ := replied_cons_iff.1 h'
  have hsame := congrArg Prod.fst (hreply.symm.trans hreply')
  exact Option.some.inj hsame

end Task

namespace Plan

variable {gs rest rest' : List GatedPrompt} {c c₁ c₁' : Context} {stages stages' : List Stage}
  {fault fault' : Option RunError} {tail tail' : List Asked}

/-- Two preparations that begin with the same steps either both fail at the same one of these steps,
with the same error, or get through them alike to one context. -/
theorem Prepares.fork (h : Prepares (gs ++ rest) c stages c₁ fault)
    (h' : Prepares (gs ++ rest') c stages' c₁' fault')
    (hsame : Asked.Consistent (stages.flatMap (·.calls) ++ tail)
      (stages'.flatMap (·.calls) ++ tail')) :
    (∃ e, fault = some e ∧ fault' = some e ∧ stages' = stages ∧ c₁' = c₁ ∧
      Prepares gs c stages c₁ (some e)) ∨
    ∃ front after after' c₂, stages = front ++ after ∧ stages' = front ++ after' ∧
      Prepares gs c front c₂ none ∧ Prepares rest c₂ after c₁ fault ∧
      Prepares rest' c₂ after' c₁' fault' := by
  induction gs generalizing c stages stages' with
  | nil => exact .inr ⟨[], stages, stages', c, rfl, rfl, .done c, h, h'⟩
  | cons g gs ih =>
    cases h with
    | skipped hshut h =>
      cases h' with
      | skipped _ h' =>
        obtain ⟨e, he, he', rfl, rfl, hfail⟩ |
          ⟨front, after, after', c₂, rfl, rfl, hfront, hrest⟩ := ih h h' hsame
        · exact .inl ⟨e, he, he', rfl, rfl, .skipped hshut hfail⟩
        · exact .inr ⟨_, after, after', c₂, rfl, rfl, .skipped hshut hfront, hrest⟩
      | answered hopen => exact absurd hopen hshut
      | failed hopen => exact absurd hopen hshut
    | answered hopen hask text h =>
      cases h' with
      | skipped hshut => exact absurd hopen hshut
      | answered _ hask' text' h' =>
        obtain rfl := Prompt.asks_iff.1 hask
        obtain rfl := Prompt.asks_iff.1 hask'
        have htext := hsame [] _ _ _ _ _ rfl rfl
        obtain rfl := Except.ok.inj htext
        obtain ⟨e, he, he', rfl, rfl, hfail⟩ |
          ⟨front, after, after', c₂, rfl, rfl, hfront, hrest⟩ := ih h h' hsame.tail
        · exact .inl ⟨e, he, he', rfl, rfl, .answered hopen hask text hfail⟩
        · exact .inr ⟨_, after, after', c₂, rfl, rfl, .answered hopen hask text hfront, hrest⟩
      | failed _ hask' e =>
        obtain rfl := Prompt.asks_iff.1 hask
        obtain rfl := Prompt.asks_iff.1 hask'
        cases hsame [] _ _ _ _ _ rfl rfl
    | failed hopen hask e =>
      cases h' with
      | skipped hshut => exact absurd hopen hshut
      | answered _ hask' text' h' =>
        obtain rfl := Prompt.asks_iff.1 hask
        obtain rfl := Prompt.asks_iff.1 hask'
        cases hsame [] _ _ _ _ _ rfl rfl
      | failed _ hask' e' =>
        obtain rfl := Prompt.asks_iff.1 hask
        obtain rfl := Prompt.asks_iff.1 hask'
        have herror := hsame [] _ _ _ _ _ rfl rfl
        obtain rfl := Except.error.inj herror
        exact .inl ⟨e, rfl, rfl, rfl, rfl, .failed hopen hask e⟩

/-- Every step that had its turn has its name bound. -/
lemma Prepares.bound (h : Prepares gs c stages c₁ none) :
    ∀ g ∈ gs, ∃ text, c₁.get? g.prompt.stepName = some text := by
  have grown {c c' : Context} {key text : String} (h : (c.record key text).Grows c') :
      ∃ value, c'.get? key = some value := by
    have hbound : (c.record key text).isBound key := Context.isBound_record.2 (.inr rfl)
    obtain ⟨value, hvalue⟩ := Option.isSome_iff_exists.1 hbound
    exact ⟨value, h.get? _ _ hvalue⟩
  generalize hfault : none = fault at h
  induction h with
  | done => exact List.forall_mem_nil _
  | skipped _ h ih => exact List.forall_mem_cons.2 ⟨grown h.grows, ih hfault⟩
  | answered _ _ _ h ih => exact List.forall_mem_cons.2 ⟨grown h.grows, ih hfault⟩
  | failed => cases hfault

lemma Prepares.length_le (h : Prepares gs c stages c₁ fault) : stages.length ≤ gs.length := by
  induction h with
  | done => exact Nat.le_refl _
  | skipped _ _ ih => exact Nat.succ_le_succ ih
  | answered _ _ _ _ ih => exact Nat.succ_le_succ ih
  | failed => exact Nat.succ_le_succ (Nat.zero_le _)

/-- A preparation fails exactly if one of its stages does, with the same error. -/
lemma Prepares.failed_iff (h : Prepares gs c stages c₁ fault) {e : RunError} :
    fault = some e ↔ ∃ s ∈ stages, ∃ r, s.outcome = .failed r e := by
  induction h with
  | done => simp
  | skipped _ _ ih => simp [ih]
  | answered _ _ _ _ ih => simp [ih]
  | failed _ _ e' =>
    constructor
    · intro he
      cases he
      exact ⟨_, List.mem_singleton_self _, _, rfl⟩
    · rintro ⟨s, hs, r, hfailed⟩
      obtain rfl := List.mem_singleton.1 hs
      cases hfailed
      rfl

/-- Two executions go through their first steps in the same way: gates are decided alike, the model
is asked the same, and the names get the same texts. If one of them fails there, then so does the
other. -/
structure StartsAlike (k : Nat) (names : List String) (stages stages' : List Stage)
    (log log' : List Asked) (c₁ c₁' : Context) (out out' : Except RunError Stream) : Prop where
  same : stages'.take k = stages.take k
  asked : ∃ rest rest', log = (stages.take k).flatMap (·.calls) ++ rest ∧
    log' = (stages.take k).flatMap (·.calls) ++ rest'
  values : ∀ name ∈ names, c₁'.get? name = c₁.get? name
  failed : ∀ s ∈ stages.take k, ∀ r e, s.outcome = .failed r e →
    stages' = stages ∧ log' = log ∧ out = .error e ∧ out' = .error e
  passed : (∀ s ∈ stages.take k, ∀ r e, s.outcome ≠ .failed r e) →
    (stages.take k).map (·.name) = names

/-- The calls of the stages come first in the log, and an error of theirs is what comes of it. -/
lemma Executes.begins {p : Plan} {log : List Asked} {out : Except RunError Stream}
    (h : p.Executes c stages log c₁ out) :
    ∃ fault tail, Prepares p.gated c stages c₁ fault ∧ log = stages.flatMap (·.calls) ++ tail ∧
      ∀ e, fault = some e → tail = [] ∧ out = .error e := by
  cases h with
  | failed h =>
    refine ⟨_, [], h, (List.append_nil _).symm, fun e he => ?_⟩
    cases he
    exact ⟨rfl, rfl⟩
  | opened h => exact ⟨none, _, h, rfl, fun e he => by cases he⟩

theorem Executes.startsAlike {p p' : Plan} {k : Nat} {log log' : List Asked}
    {out out' : Except RunError Stream} (hgated : p'.gated.take k = p.gated.take k)
    (hk : k ≤ p.gated.length) (h : p.Executes c stages log c₁ out)
    (h' : p'.Executes c stages' log' c₁' out') (hsame : Asked.Consistent log log') :
    StartsAlike k ((p.gated.take k).map (·.prompt.stepName)) stages stages' log log' c₁ c₁'
      out out' := by
  obtain ⟨fault, tail, hprepares, rfl, hout⟩ := h.begins
  obtain ⟨fault', tail', hprepares', rfl, hout'⟩ := h'.begins
  have hlength : (p.gated.take k).length = k := List.length_take_of_le hk
  rw [← List.take_append_drop k p.gated] at hprepares
  rw [← List.take_append_drop k p'.gated, hgated] at hprepares'
  obtain ⟨e, rfl, rfl, rfl, rfl, hfail⟩ |
    ⟨front, after, after', c₂, rfl, rfl, hfront, hrest, hrest'⟩ := hprepares.fork hprepares' hsame
  · obtain ⟨rfl, rfl⟩ := hout e rfl
    obtain ⟨rfl, rfl⟩ := hout' e rfl
    have htake : stages'.take k = stages' := List.take_of_length_le (hlength ▸ hfail.length_le)
    constructor
    case same => rfl
    case asked => exact ⟨[], [], by rw [htake], by rw [htake]⟩
    case values => exact fun _ _ => rfl
    case failed =>
      rw [htake]
      intro s hs r e' hs'
      have he := hfail.failed_iff.2 ⟨s, hs, r, hs'⟩
      cases he
      exact ⟨rfl, rfl, rfl, rfl⟩
    case passed =>
      rw [htake]
      intro hnone
      obtain ⟨s, hs, r, hs'⟩ := hfail.failed_iff.1 rfl
      exact absurd hs' (hnone s hs r e)
  · have hsteps := hfront.steps
    have hlen : front.length = k := by rw [← hlength, ← hsteps, List.length_map]
    have htake (l : List Stage) : (front ++ l).take k = front := List.take_left' hlen
    rw [List.flatMap_append, List.append_assoc, List.flatMap_append, List.append_assoc]
    constructor
    case same => rw [htake, htake]
    case asked => exact ⟨_, _, by rw [htake], by rw [htake]⟩
    case values =>
      intro name hname
      obtain ⟨g, hg, rfl⟩ := List.mem_map.1 hname
      obtain ⟨text, htext⟩ := hfront.bound g hg
      rw [hrest.grows.get? _ _ htext, hrest'.grows.get? _ _ htext]
    case failed =>
      rw [htake]
      intro s hs r e hs'
      cases hfront.failed_iff.2 ⟨s, hs, r, hs'⟩
    case passed =>
      rw [htake, ← hsteps, List.map_map]
      exact fun _ => rfl

lemma gatedPrompt_of_unique : Relator.RightUnique GatedPrompt.Of := by
  intro s g g' h h'
  obtain ⟨gate, prompt⟩ := g
  obtain ⟨gate', prompt'⟩ := g'
  obtain rfl := Except.ok.inj (h.gate.symm.trans h'.gate)
  obtain rfl : prompt = prompt' := h.prompt.trans h'.prompt.symm
  rfl

/-- The first steps of an agent are the first units of its plan. -/
lemma ofAgent_take {a : Agent} {p : Plan} {k : Nat} (ha : ofAgent a = .ok p)
    (hk : k < a.steps.length) :
    k ≤ p.gated.length ∧ List.Forall₂ GatedPrompt.Of (a.steps.take k) (p.gated.take k) := by
  obtain ⟨-, front, last, hsteps, hof, -⟩ := ofAgent_ok ha
  rw [hsteps, List.length_append, List.length_singleton, Nat.lt_succ_iff] at hk
  rw [hsteps, List.take_append_of_le_length hk, ← hof.length_eq]
  exact ⟨hk, List.forall₂_take k hof⟩

end Plan

/-- Two agents have the same first steps, and these are not the last ones. From one context, their
plans go through these steps in the same way (`StartsAlike`) if the model's reply is a function of
the request and of how many calls there were before, and also if they are run in one world. -/
theorem Plan.ofAgent_startsAlike {a a' : Agent} {p p' : Plan} (ha : Plan.ofAgent a = .ok p)
    (ha' : Plan.ofAgent a' = .ok p') {k : Nat} (hk : k < a.steps.length)
    (hk' : k < a'.steps.length) (hsteps : a.steps.take k = a'.steps.take k) (c : Context) :
    (∀ (model : Nat → Request → Except RunError String) log log' c₁ c₁' out out',
      (p.run c).Ran log (c₁, out) → (p'.run c).Ran log' (c₁', out') →
      Asked.AnsweredBy model log → Asked.AnsweredBy model log' →
        ∃ stages stages', p.Executes c stages log c₁ out ∧ p'.Executes c stages' log' c₁' out' ∧
          StartsAlike k ((a.steps.take k).map fun s => Text.trim s.name) stages stages' log log'
            c₁ c₁' out out') ∧
    ∀ (w : World) w₁ w₁' c₁ c₁' out out', w.perform (p.run c) = (some (c₁, out), w₁) →
      w.perform (p'.run c) = (some (c₁', out'), w₁') →
        ∃ stages stages' log log', p.Executes c stages log c₁ out ∧
          p'.Executes c stages' log' c₁' out' ∧ Task.Replied World.answer w log w₁ ∧
          Task.Replied World.answer w log' w₁' ∧
          StartsAlike k ((a.steps.take k).map fun s => Text.trim s.name) stages stages' log log'
            c₁ c₁' out out' := by
  obtain ⟨hlength, hof⟩ := ofAgent_take ha hk
  obtain ⟨-, hof'⟩ := ofAgent_take ha' hk'
  rw [← hsteps] at hof'
  have hgated := List.right_unique_forall₂' gatedPrompt_of_unique hof' hof
  have hnames := GatedPrompt.of_names hof
  refine ⟨fun model log log' c₁ c₁' out out' hran hran' hmodel hmodel' => ?_,
    fun w w₁ w₁' c₁ c₁' out out' hrun hrun' => ?_⟩
  · obtain ⟨stages, h⟩ := ran_iff_executes.1 hran
    obtain ⟨stages', h'⟩ := ran_iff_executes.1 hran'
    have halike := h.startsAlike hgated hlength h' (hmodel.consistent hmodel')
    exact ⟨stages, stages', h, h', hnames ▸ halike⟩
  · obtain ⟨hran, hreplied⟩ := Task.run_some hrun
    obtain ⟨hran', hreplied'⟩ := Task.run_some hrun'
    obtain ⟨stages, h⟩ := ran_iff_executes.1 hran
    obtain ⟨stages', h'⟩ := ran_iff_executes.1 hran'
    have halike := h.startsAlike hgated hlength h' (hreplied.consistent hreplied')
    exact ⟨stages, stages', _, _, h, h', hreplied, hreplied', hnames ▸ halike⟩

/-- The sketch with one more step before the answer, which looks at the outline. -/
def Agent.reviewedSketch : Agent where
  id := default
  name := "reviewed"
  steps := Agent.sketch.steps.take 2 ++
    [⟨default, "review", "", "\x7bdraft\x7d", false, false, [⟨"outline", none⟩], []⟩,
     ⟨default, "answer", "", "\x7breview\x7d", true, false, [], []⟩]
  createdAt := default
  updatedAt := default

/-- In a new chat the sketch makes its draft as if there were no step after it. -/
theorem Plan.ofAgent_startsAlike_reviewed :
    ∃ p p' log log' c₁ c₁', Plan.ofAgent Agent.sketch = .ok p ∧
      Plan.ofAgent Agent.reviewedSketch = .ok p' ∧
      (p.run (.ofHistory "hi" [])).Ran log (c₁, .error .cancelled) ∧
      (p'.run (.ofHistory "hi" [])).Ran log' (c₁', .error .cancelled) ∧
      ∃ stages stages', StartsAlike 2 ["outline", "draft"] stages stages' log log' c₁ c₁'
        (.error .cancelled) (.error .cancelled) := by
  let gated : List GatedPrompt := [⟨⟨true, []⟩, .ofStep Agent.sketch.steps[0]⟩,
    ⟨⟨false, [⟨"prompt", none⟩]⟩, .ofStep Agent.sketch.steps[1]⟩]
  let review : GatedPrompt :=
    ⟨⟨false, [⟨"outline", none⟩]⟩, .ofStep Agent.reviewedSketch.steps[2]⟩
  let p : Plan := ⟨some Agent.sketch.id, "sketch", gated, .ofStep Agent.sketch.steps[2]⟩
  let p' : Plan :=
    { agentId := some Agent.reviewedSketch.id
      name := "reviewed"
      gated := gated ++ [review]
      answer := .ofStep Agent.reviewedSketch.steps[3] }
  have hp : Plan.ofAgent Agent.sketch = .ok p := by rfl
  have hp' : Plan.ofAgent Agent.reviewedSketch = .ok p' := by rfl
  have hopen : Gate.Open ⟨false, [⟨"prompt", none⟩]⟩
      ((Context.ofHistory "hi" []).record "outline" "") := by
    refine ⟨fun h => (by cases h), fun k hk => ⟨"hi", ?_, by decide, ?_⟩⟩ <;>
      obtain rfl := List.mem_singleton.1 hk
    · decide
    · exact fun pattern h => by cases h
  have hshut : ¬review.gate.Open
      (((Context.ofHistory "hi" []).record "outline" "").record "draft" "A draft.") := by
    intro hreview
    obtain ⟨text, htext, hne, -⟩ := hreview.2 _ (.head _)
    exact hne (Option.some.inj htext).symm
  have hrun := ran_iff_executes.2 ⟨_, .opened (p := p) (c := .ofHistory "hi" [])
    (.skipped (fun h => h.1 rfl rfl) (.answered hopen (Prompt.asks_iff.2 rfl) "A draft."
      (.done _))) (Prompt.asks_iff.2 rfl) (.error .cancelled)⟩
  have hrun' := ran_iff_executes.2 ⟨_, .opened (p := p') (c := .ofHistory "hi" [])
    (.skipped (fun h => h.1 rfl rfl) (.answered hopen (Prompt.asks_iff.2 rfl) "A draft."
      (.skipped hshut (.done _)))) (Prompt.asks_iff.2 rfl) (.error .cancelled)⟩
  have hmodel (r r' : Request) : Asked.AnsweredBy (fun _ _ => .ok "A draft.")
      [⟨.invoke r, .ok "A draft."⟩, ⟨.openStream r', .error .cancelled⟩] := by
    intro front r₁ reply rest hlog
    rcases front with _ | ⟨x, _ | ⟨y, front⟩⟩
    · cases hlog
      rfl
    · cases hlog
    · simp at hlog
  have hnames : (Agent.sketch.steps.take 2).map (fun s => Text.trim s.name) =
      ["outline", "draft"] := by decide +kernel
  obtain ⟨hmodels, -⟩ := ofAgent_startsAlike hp hp' (k := 2) (by decide) (by decide) (by decide)
    (.ofHistory "hi" [])
  obtain ⟨stages, stages', -, -, halike⟩ :=
    hmodels _ _ _ _ _ _ _ hrun hrun' (hmodel _ _) (hmodel _ _)
  exact ⟨p, p', _, _, _, _, hp, hp', hrun, hrun', stages, stages', hnames ▸ halike⟩

end Parley
