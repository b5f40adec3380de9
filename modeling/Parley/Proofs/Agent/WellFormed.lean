import Mathlib.Data.List.Nodup
import Mathlib.Data.List.TakeWhile
import Parley.Proofs.Agent.Names

/-!
# Agents that are plans

`Agent.WellFormed` says of all steps at once what an agent has to be. Going through the steps one by
one accepts exactly these agents (`ofAgent_wellFormed`): the plan carries what the steps say, and a
fault that is found instead is there (`DefinitionFault.Blames`).
-/

namespace Parley

lemma Text.blank_iff {s : String} : blank s ↔ trim s = "" := by
  rw [trim, ← String.toList_inj, String.toList_ofList, blank, List.all_eq_true]
  simp only [Chars.trim, Chars.trimEnd, Chars.trimStart, String.toList_empty,
    List.reverse_eq_nil_iff, List.dropWhile_eq_nil_iff, List.mem_reverse]
  refine ⟨fun h c hc => h c ((List.dropWhile_sublist _).subset hc), fun h => ?_⟩
  rw [← List.dropWhile_eq_nil_iff]
  by_contra hne
  have hblank := h _ (List.head_mem hne)
  have hnot := List.head_dropWhile_not isBlank hne
  rw [hblank] at hnot
  cases hnot

lemma Text.trimmed?_eq_some_iff {s t : String} : trimmed? s = some t ↔ t = trim s ∧ t ≠ "" := by
  unfold trimmed?
  by_cases h : blank s
  · simp [h, blank_iff.1 h]
  · have htrim := mt blank_iff.2 h
    simp only [h, Bool.false_eq_true, if_false, Option.some.injEq]
    exact ⟨fun ht => ⟨ht.symm, ht ▸ htrim⟩, fun ht => ht.1.symm⟩

/-- Each step has a name of its own, which the turn does not take, and looks at the prompt or at
steps before it. Blanks around a name do not count. -/
structure Step.Ordered (steps : List Step) : Prop where
  named : ∀ s ∈ steps, Text.trim s.name ≠ ""
  free : ∀ s ∈ steps, Text.trim s.name ≠ Context.promptName ∧
    Text.trim s.name ≠ Context.transcriptName
  distinct : (steps.map fun s => Text.trim s.name).Nodup
  earlier : ∀ before s after, steps = before ++ s :: after → ∀ c ∈ s.conditions,
    c.name = Context.promptName ∨ ∃ b ∈ before, Text.trim b.name = c.name

/-- Every pattern that is more than blanks can be read. -/
def Step.Readable (s : Step) : Prop :=
  ∀ c ∈ s.conditions, ∀ text, c.pattern = some text → Text.trim text ≠ "" →
    (Regex.parse? (Text.trim text)).isSome

/-- What an agent has to be so that it can be run. -/
structure Agent.WellFormed (a : Agent) : Prop where
  nonempty : a.steps ≠ []
  ordered : Step.Ordered a.steps
  readable : ∀ s ∈ a.steps.dropLast, s.Readable
  ending : ∀ s, a.steps.getLast? = some s → s.conditions = [] ∧ s.onlyIfPreviousMessages = false

/-- What a fault says about some steps is so. -/
def DefinitionFault.Blames (steps : List Step) : DefinitionFault → Prop
  | noSteps => steps = []
  | emptyName position => ∃ before s after, steps = before ++ s :: after ∧
      position = before.length + 1 ∧ Text.trim s.name = ""
  | reservedName name => ∃ s ∈ steps, Text.trim s.name = name ∧ Plan.isReserved name
  | unknownName name key => ∃ before s after, steps = before ++ s :: after ∧
      Text.trim s.name = name ∧ (∃ c ∈ s.conditions, c.name = key) ∧
      key ≠ Context.promptName ∧ ∀ b ∈ before, Text.trim b.name ≠ key
  | duplicateName name => ∃ before s after, steps = before ++ s :: after ∧
      Text.trim s.name = name ∧ ∃ b ∈ before, Text.trim b.name = name
  | badPattern raw key => ∃ s ∈ steps.dropLast, ∃ c ∈ s.conditions, c.name = key ∧
      (∃ text, c.pattern = some text ∧ Text.trim text = raw) ∧ raw ≠ "" ∧ Regex.parse? raw = none
  | conditionalEnd => ∃ s, steps.getLast? = some s ∧ s.isUnconditional = false
  | noFinalUnit => False
  | other _ => False

/-- An agent that is blamed rightly is not well-formed. -/
theorem DefinitionFault.Blames.not_wellFormed {a : Agent} {fault : DefinitionFault}
    (h : fault.Blames a.steps) : ¬a.WellFormed := by
  intro ha
  have hordered := ha.ordered
  cases fault with
  | noSteps => exact ha.nonempty h
  | emptyName position =>
    obtain ⟨before, s, after, hsteps, -, hname⟩ := h
    exact hordered.named s (by simp [hsteps]) hname
  | reservedName name =>
    obtain ⟨s, hs, rfl, hreserved⟩ := h
    have hfree := hordered.free s hs
    simp [Plan.isReserved, hfree] at hreserved
  | unknownName name key =>
    obtain ⟨before, s, after, hsteps, -, ⟨c, hc, rfl⟩, hprompt, hbefore⟩ := h
    obtain hc | ⟨b, hb, hname⟩ := hordered.earlier before s after hsteps c hc
    · exact hprompt hc
    · exact hbefore b hb hname
  | duplicateName name =>
    obtain ⟨before, s, after, hsteps, rfl, b, hb, hname⟩ := h
    have hdistinct := hordered.distinct
    rw [hsteps, List.map_append, List.map_cons] at hdistinct
    have hnew := (List.nodup_append.1 hdistinct).2.2 _ (List.mem_map_of_mem hb)
    exact hnew _ List.mem_cons_self hname
  | badPattern raw key =>
    obtain ⟨s, hs, c, hc, -, ⟨text, htext, rfl⟩, hraw, hparse⟩ := h
    have hread := ha.readable s hs c hc text htext hraw
    rw [hparse] at hread
    cases hread
  | conditionalEnd =>
    obtain ⟨s, hs, hconditional⟩ := h
    obtain ⟨hconditions, hprevious⟩ := ha.ending s hs
    simp [Step.isUnconditional, hconditions, hprevious] at hconditional
  | noFinalUnit => exact h
  | other => exact h

namespace Except

variable {ε α β : Type} {f : α → Except ε β} {e : ε}

lemma bind_error_iff {x : Except ε α} :
    (x >>= f) = .error e ↔ x = .error e ∨ ∃ a, x = .ok a ∧ f a = .error e := by
  cases x with
  | error e' =>
    constructor
    · intro h
      exact .inl (congrArg Except.error (Except.error.inj h))
    · rintro (h | ⟨a, h, -⟩) <;> cases h
      rfl
  | ok a =>
    constructor
    · exact fun h => .inr ⟨a, rfl, h⟩
    · rintro (h | ⟨_, h, hf⟩) <;> cases h
      exact hf

lemma mapM_ok {as : List α} {bs : List β} (h : as.mapM f = .ok bs) :
    List.Forall₂ (fun a b => f a = .ok b) as bs := by
  induction as generalizing bs with
  | nil =>
    cases h
    exact .nil
  | cons a as ih =>
    rw [List.mapM_cons, bind_ok_iff] at h
    obtain ⟨b, ha, h⟩ := h
    obtain ⟨bs₁, has, h⟩ := bind_ok_iff.1 h
    cases h
    exact .cons ha (ih has)

lemma mapM_error {as : List α} (h : as.mapM f = .error e) : ∃ a ∈ as, f a = .error e := by
  induction as with
  | nil => cases h
  | cons a as ih =>
    rw [List.mapM_cons, bind_error_iff] at h
    obtain ha | ⟨b, -, h⟩ := h
    · exact ⟨a, List.mem_cons_self, ha⟩
    obtain has | ⟨bs, -, h⟩ := bind_error_iff.1 h
    · obtain ⟨a', ha', he⟩ := ih has
      exact ⟨a', List.mem_cons_of_mem _ ha', he⟩
    · cases h

end Except

/-- A check is what a condition says, the pattern read from the text without the blanks around
it. -/
lemma Check.ofCondition_ok {c : Condition} {k : Check} (h : ofCondition c = .ok k) :
    k.name = c.name ∧ k.pattern = (c.pattern.bind Text.trimmed?).bind Regex.parse? ∧
      ∀ raw, c.pattern.bind Text.trimmed? = some raw → (Regex.parse? raw).isSome := by
  unfold ofCondition at h
  split at h
  · next hnone =>
    cases h
    rw [hnone]
    exact ⟨rfl, rfl, nofun⟩
  · next raw hraw =>
    split at h <;> cases h
    next pattern hpattern =>
      rw [hraw]
      refine ⟨rfl, hpattern.symm, fun raw' hraw' => ?_⟩
      obtain rfl := Option.some.inj hraw'
      rw [hpattern]
      rfl

lemma Check.ofCondition_error {c : Condition} {fault : DefinitionFault}
    (h : ofCondition c = .error fault) : ∃ raw, fault = .badPattern raw c.name ∧
      c.pattern.bind Text.trimmed? = some raw ∧ Regex.parse? raw = none := by
  unfold ofCondition at h
  split at h
  · cases h
  · next raw hraw =>
    split at h <;> cases h
    next hparse => exact ⟨raw, rfl, hraw, hparse⟩

/-- A gate asks for what a step says: for messages or not, and for every condition in order, with
the pattern that its text is read as. -/
structure Gate.Carries (s : Step) (g : Gate) : Prop where
  needsHistory : g.needsHistory = s.onlyIfPreviousMessages
  checks : List.Forall₂ (fun c k => k.name = c.name ∧
    k.pattern = (c.pattern.bind Text.trimmed?).bind Regex.parse?) s.conditions g.checks

lemma Gate.ofStep_ok {s : Step} {g : Gate} (h : ofStep s = .ok g) : g.Carries s := by
  obtain ⟨ks, hks, h⟩ := Except.bind_ok_iff.1 h
  cases h
  refine ⟨rfl, (Except.mapM_ok hks).imp fun c k hk => ?_⟩
  obtain ⟨hname, hpattern, -⟩ := Check.ofCondition_ok hk
  exact ⟨hname, hpattern⟩

lemma Gate.ofStep_readable {s : Step} {g : Gate} (h : ofStep s = .ok g) : s.Readable := by
  obtain ⟨ks, hks, -⟩ := Except.bind_ok_iff.1 h
  have hread : ∀ c k, Check.ofCondition c = .ok k → ∀ text, c.pattern = some text →
      Text.trim text ≠ "" → (Regex.parse? (Text.trim text)).isSome := by
    intro c k hk text htext hne
    have htrim := Text.trimmed?_eq_some_iff.2 ⟨rfl, hne⟩
    exact (Check.ofCondition_ok hk).2.2 _ (Option.bind_eq_some_iff.2 ⟨text, htext, htrim⟩)
  have hall := (Except.mapM_ok hks).imp fun c k hk => And.intro (hread c k hk) hk
  exact ((List.forall₂_and_left ..).1 hall).1

/-- A pattern that cannot be read is one of the step's, without the blanks around it. -/
lemma Gate.ofStep_error {s : Step} {fault : DefinitionFault} (h : ofStep s = .error fault) :
    ∃ c ∈ s.conditions, ∃ raw, fault = .badPattern raw c.name ∧
      c.pattern.bind Text.trimmed? = some raw ∧ Regex.parse? raw = none := by
  obtain hks | ⟨ks, -, h⟩ := Except.bind_error_iff.1 h
  · obtain ⟨c, hc, hfault⟩ := Except.mapM_error hks
    exact ⟨c, hc, Check.ofCondition_error hfault⟩
  · cases h

/-- A prompt asks what a step says, under its name without the blanks around it. -/
structure Prompt.Carries (s : Step) (p : Prompt) : Prop where
  stepName : p.stepName = Text.trim s.name
  systemTemplate : p.systemTemplate = s.systemTemplate
  messageTemplate : p.messageTemplate = s.messageTemplate
  includeHistory : p.includeHistory = s.includeChatHistory
  seeds : p.seeds = s.messages

lemma Prompt.carries_iff {s : Step} {p : Prompt} : p.Carries s ↔ p = .ofStep s := by
  refine ⟨fun ⟨hname, hsystem, hmessage, hhistory, hseeds⟩ => ?_, ?_⟩
  · obtain ⟨name, system, message, history, seeds⟩ := p
    simp_all [ofStep]
  · rintro rfl
    exact ⟨rfl, rfl, rfl, rfl, rfl⟩

namespace Plan

variable {before steps : List Step} {s : Step} {position : Nat} {fault : DefinitionFault}

/-- The names so far, the last one first. -/
def namesOf (steps : List Step) : List String := (steps.map fun s => Text.trim s.name).reverse

lemma namesOf_snoc (before : List Step) (s : Step) :
    namesOf (before ++ [s]) = Text.trim s.name :: namesOf before := by
  simp [namesOf]

lemma mem_namesOf {name : String} :
    name ∈ namesOf steps ↔ ∃ s ∈ steps, Text.trim s.name = name := by
  simp [namesOf]

lemma not_isReserved_iff {name : String} :
    ¬isReserved name ↔ name ≠ Context.promptName ∧ name ≠ Context.transcriptName := by
  simp [isReserved]

/-- Steps stay in order with one more that passes. -/
lemma ordered_snoc {name : String} (h : Step.Ordered before)
    (hs : checkStep (namesOf before) position s = .ok name) : Step.Ordered (before ++ [s]) := by
  obtain ⟨rfl, hempty, hreserved, hnew, hconditions⟩ := checkStep_ok_iff.1 hs
  constructor
  case named => exact fun t ht => (List.mem_append.1 ht).elim (h.named t) (by simp_all)
  case free =>
    have hfree := not_isReserved_iff.1 hreserved
    exact fun t ht => (List.mem_append.1 ht).elim (h.free t) (by simp_all)
  case distinct =>
    rw [List.map_append, List.map_singleton, ← List.nodup_reverse, List.reverse_append]
    exact List.nodup_cons.2 ⟨hnew, List.nodup_reverse.2 h.distinct⟩
  case earlier =>
    intro front t after hsplit c hc
    obtain rfl | ⟨after, last, rfl⟩ := after.eq_nil_or_concat
    · obtain ⟨rfl, ht⟩ := List.append_inj' hsplit rfl
      obtain rfl := List.singleton_inj.1 ht
      exact (hconditions c hc).imp_right mem_namesOf.1
    · rw [List.concat_eq_append, ← List.cons_append, ← List.append_assoc] at hsplit
      exact h.earlier front t after (List.append_inj' hsplit rfl).1 c hc

theorem ofSteps_ordered {gated : List GatedPrompt} {answer : Prompt} (hbefore : Step.Ordered before)
    (h : ofSteps (namesOf before) position steps = .ok (gated, answer)) :
    Step.Ordered (before ++ steps) ∧ ∀ s, steps.getLast? = some s → s.isUnconditional := by
  induction steps generalizing before position gated answer with
  | nil => cases h
  | cons s rest ih =>
    cases rest with
    | nil =>
      obtain ⟨name, hname, h⟩ := Except.bind_ok_iff.1 h
      split_ifs at h with hlast
      refine ⟨ordered_snoc hbefore hname, fun t ht => ?_⟩
      obtain rfl := Option.some.inj ht
      exact hlast
    | cons s₁ rest =>
      obtain ⟨name, hname, h⟩ := Except.bind_ok_iff.1 h
      obtain ⟨gate, -, h⟩ := Except.bind_ok_iff.1 h
      obtain ⟨⟨gated₁, answer₁⟩, hrest, h⟩ := Except.bind_ok_iff.1 h
      have hordered := ordered_snoc hbefore hname
      obtain ⟨rfl, -⟩ := checkStep_ok_iff.1 hname
      rw [← namesOf_snoc] at hrest
      have hall := ih hordered hrest
      rwa [List.append_assoc, List.singleton_append] at hall

lemma checkStep_error {after : List Step}
    (h : checkStep (namesOf before) (before.length + 1) s = .error fault) :
    fault.Blames (before ++ s :: after) := by
  unfold checkStep at h
  dsimp only at h
  by_cases hempty : Text.trim s.name = ""
  · rw [if_pos hempty] at h
    cases h
    exact ⟨before, s, after, rfl, rfl, hempty⟩
  rw [if_neg hempty] at h
  by_cases hreserved : isReserved (Text.trim s.name)
  · rw [if_pos hreserved] at h
    cases h
    exact ⟨s, by simp, rfl, hreserved⟩
  rw [if_neg hreserved] at h
  cases hstray : strayCondition? (namesOf before) s with
  | some c =>
    rw [hstray] at h
    cases h
    have hc := List.find?_some hstray
    simp only [Bool.and_eq_true, decide_eq_true_eq, Bool.not_eq_true', List.contains_iff_mem,
      ← Bool.not_eq_true, mem_namesOf, not_exists, not_and] at hc
    exact ⟨before, s, after, rfl, rfl, ⟨c, List.mem_of_find?_eq_some hstray, rfl⟩, hc.1, hc.2⟩
  | none =>
    rw [hstray] at h
    split_ifs at h with htaken
    cases h
    exact ⟨before, s, after, rfl, rfl, mem_namesOf.1 (List.contains_iff_mem.1 htaken)⟩

lemma ofSteps_error (hsteps : steps = [] → before = [])
    (h : ofSteps (namesOf before) (before.length + 1) steps = .error fault) :
    fault.Blames (before ++ steps) := by
  induction steps generalizing before with
  | nil =>
    cases h
    simp [hsteps rfl, DefinitionFault.Blames]
  | cons s rest ih =>
    cases rest with
    | nil =>
      obtain hname | ⟨name, -, h⟩ := Except.bind_error_iff.1 h
      · exact checkStep_error hname
      · split_ifs at h with hlast
        · cases h
        · obtain rfl : .conditionalEnd = fault := Except.error.inj h
          exact ⟨s, by simp, Bool.eq_false_iff.2 hlast⟩
    | cons s₁ rest =>
      obtain hname | ⟨name, hname, h⟩ := Except.bind_error_iff.1 h
      · exact checkStep_error hname
      obtain ⟨rfl, -⟩ := checkStep_ok_iff.1 hname
      obtain hgate | ⟨gate, -, h⟩ := Except.bind_error_iff.1 h
      · obtain ⟨c, hc, raw, rfl, hraw, hparse⟩ := Gate.ofStep_error hgate
        obtain ⟨text, htext, hraw⟩ := Option.bind_eq_some_iff.1 hraw
        obtain ⟨rfl, hne⟩ := Text.trimmed?_eq_some_iff.1 hraw
        refine ⟨s, ?_, c, hc, rfl, ⟨text, htext, rfl⟩, hne, hparse⟩
        rw [List.dropLast_append_of_ne_nil (by simp)]
        simp
      obtain hrest | ⟨r, -, h⟩ := Except.bind_error_iff.1 h
      · rw [← namesOf_snoc] at hrest
        have hlength : before.length + 1 + 1 = (before ++ [s]).length + 1 := by simp
        have hfault : fault.Blames (before ++ [s] ++ s₁ :: rest) := ih (by simp) (hlength ▸ hrest)
        rwa [List.append_assoc, List.singleton_append] at hfault
      · cases h

/-- The plan has a unit for each step, in order, and only the last one is the answer. -/
structure Carries (a : Agent) (p : Plan) : Prop where
  agentId : p.agentId = some a.id
  name : p.name = a.name
  prompts : List.Forall₂ Prompt.Carries a.steps p.prompts
  gates : List.Forall₂ Gate.Carries a.steps.dropLast (p.gated.map (·.gate))

lemma ofAgent_carries {a : Agent} {p : Plan} (h : ofAgent a = .ok p) : p.Carries a := by
  obtain ⟨-, front, last, hsteps, hof, hanswer⟩ := ofAgent_ok h
  obtain ⟨r, -, h⟩ := Except.bind_ok_iff.1 h
  cases h
  refine ⟨rfl, rfl, ?_, ?_⟩
  · have hprompts := hof.imp fun s g hg => Prompt.carries_iff.2 hg.prompt
    rw [hsteps, prompts, hanswer]
    exact List.rel_append (List.forall₂_map_right_iff.2 hprompts)
      (.cons (Prompt.carries_iff.2 rfl) .nil)
  · rw [hsteps, List.dropLast_concat, List.forall₂_map_right_iff]
    exact hof.imp fun s g hg => Gate.ofStep_ok hg.gate

lemma ofAgent_ok_wellFormed {a : Agent} {p : Plan} (h : ofAgent a = .ok p) : a.WellFormed := by
  obtain ⟨-, front, last, hsteps, hof, -⟩ := ofAgent_ok h
  obtain ⟨⟨gated, answer⟩, hall, h⟩ := Except.bind_ok_iff.1 h
  have hnil : Step.Ordered [] := ⟨by simp, by simp, by simp, by simp⟩
  obtain ⟨hordered, hending⟩ := ofSteps_ordered hnil hall
  constructor
  case nonempty => simp [hsteps]
  case ordered => exact hordered
  case readable =>
    rw [hsteps, List.dropLast_concat]
    have hread := hof.imp fun s g hg => And.intro (Gate.ofStep_readable hg.gate) hg
    exact ((List.forall₂_and_left ..).1 hread).1
  case ending =>
    intro s hs
    simpa [Step.isUnconditional] using hending s hs

end Plan

/-- An agent is a plan exactly if it is well-formed. Its plan carries what its steps say; and if it
is none, that is the fault of the definition, which is blamed rightly. -/
theorem Plan.ofAgent_wellFormed (a : Agent) :
    ((∃ p, Plan.ofAgent a = .ok p) ↔ a.WellFormed) ∧
    (∀ p, Plan.ofAgent a = .ok p → p.Carries a) ∧
    ∀ fault, Plan.ofAgent a = .error fault → fault.Blames a.steps := by
  have hblames : ∀ fault, ofAgent a = .error fault → fault.Blames a.steps := by
    intro fault h
    obtain h | ⟨r, -, h⟩ := Except.bind_error_iff.1 h
    · exact (ofSteps_error (fun _ => rfl) h : fault.Blames ([] ++ a.steps))
    · cases h
  refine ⟨⟨fun ⟨p, h⟩ => ofAgent_ok_wellFormed h, fun ha => ?_⟩, fun p => ofAgent_carries, hblames⟩
  cases h : ofAgent a with
  | ok p => exact ⟨p, rfl⟩
  | error fault => exact absurd ha (hblames fault h).not_wellFormed

end Parley
