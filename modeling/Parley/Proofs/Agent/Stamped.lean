import Mathlib.Tactic.Lemma
import Mathlib.Tactic.SplitIfs
import Parley.Server.Router

/-!
# Stamps that reading an agent takes

Steps that come without an identifier take a stamp each, in order (`Stamped.Draws`). Nothing else
happens to the stamps while a request is read.
-/

namespace Parley

variable {α β : Type}

namespace Stamped

/-- A value whose making takes some stamps, the next ones each time. -/
def Draws (m : Stamped α) : Prop :=
  ∀ s : Stamps, ∃ n, (m.run s).2 = { s with drawn := s.drawn + n }

lemma draws_pure (a : α) : Draws (pure a) := fun _ => ⟨0, rfl⟩

lemma draws_draw : Draws draw := fun _ => ⟨1, rfl⟩

lemma Draws.bind {m : Stamped α} {f : α → Stamped β} (hm : m.Draws) (hf : ∀ a, (f a).Draws) :
    (m >>= f).Draws := by
  intro s
  obtain ⟨n, hn⟩ := hm s
  obtain ⟨k, hk⟩ := hf (m.run s).1 (m.run s).2
  refine ⟨n + k, ?_⟩
  have hbind : (m >>= f).run s = (f (m.run s).1).run (m.run s).2 := rfl
  rw [hbind, hk, hn, Nat.add_assoc]

lemma draws_mapM {ms : List (Stamped α)} (h : ∀ m ∈ ms, m.Draws) : (ms.mapM id).Draws := by
  induction ms with
  | nil => exact draws_pure []
  | cons m ms ih =>
    rw [List.forall_mem_cons] at h
    rw [List.mapM_cons]
    exact h.1.bind fun a => (ih h.2).bind fun as => draws_pure (a :: as)

end Stamped

namespace Json

lemma Checked.apply_eq_ok {f : Checked (α → β)} {a : Checked α} {b : β} (h : f.apply a = .ok b) :
    ∃ g x, f = .ok g ∧ a = .ok x ∧ g x = b := by
  unfold apply pair at h
  split at h <;> cases h
  exact ⟨_, _, rfl, rfl, rfl⟩

lemma asRecord_eq_ok {names : List String} {build : Fields → Checked α} {j : Json} {a : α}
    (h : asRecord names build j = .ok a) : ∃ f, build f = .ok a := by
  have hfinish {f : Fields} (h : f.finish (build f) = .ok a) : build f = .ok a := by
    unfold Fields.finish Checked.pair at h
    dsimp only at h
    split at h <;> cases h
    assumption
  unfold asRecord at h
  split at h
  · exact ⟨_, hfinish h⟩
  · exact ⟨_, hfinish h⟩
  · unfold otherwise at h
    split at h <;> cases h

lemma Fields.required_eq_ok {f : Fields} {name : String} {d : Decoder α} {a : α}
    (h : f.required name d = .ok a) : ∃ j, d j = .ok a := by
  unfold required value? at h
  cases hfound : f.found.lookup name with
  | none =>
    rw [hfound] at h
    cases h
  | some found =>
    rw [hfound] at h
    cases hd : d found.2 with
    | error e => simp [hd, Except.mapError] at h
    | ok a' =>
      refine ⟨found.2, ?_⟩
      simpa [hd, Except.mapError] using h

lemma asList_eq_ok {d : Decoder α} {j : Json} {as : List α} (h : asList d j = .ok as) :
    ∀ a ∈ as, ∃ j, d j = .ok a := by
  have hitems (items : List Json) : ∀ {as}, items.mapM d = .ok as → ∀ a ∈ as, ∃ j, d j = .ok a := by
    induction items with
    | nil =>
      rintro as ⟨⟩ a ha
      cases ha
    | cons j items ih =>
      intro as h
      rw [List.mapM_cons] at h
      cases hj : d j with
      | error e =>
        rw [hj] at h
        cases h
      | ok a =>
        cases hrest : items.mapM d with
        | error e =>
          rw [hj, hrest] at h
          cases h
        | ok rest =>
          rw [hj, hrest] at h
          cases h
          exact List.forall_mem_cons.2 ⟨⟨j, hj⟩, ih hrest⟩
  unfold asList at h
  split at h
  · exact hitems _ h
  · unfold otherwise at h
    split at h <;> cases h

lemma decodeBytes_eq_ok {d : Decoder α} {bs : List UInt8} {a : α} (h : decodeBytes d bs = .ok a) :
    ∃ j, d j = .ok a := by
  unfold decodeBytes decodeChars at h
  dsimp only at h
  split at h
  · next j rest _ =>
    refine ⟨j, ?_⟩
    cases hj : d j with
    | error e =>
      rw [hj] at h
      cases h
    | ok a' =>
      rw [hj] at h
      change (if (skip rest).isEmpty then Except.ok a' else .error Fault.malformed) = .ok a at h
      split_ifs at h
      exact h
  · next j _ =>
    cases hj : d j <;> rw [hj] at h <;> cases h

end Json

open Json

lemma idOrNew_draws (id : Option Id) : (idOrNew id).Draws := by
  cases id with
  | none => exact Stamped.draws_draw.bind fun stamp => Stamped.draws_pure stamp.id
  | some id => exact Stamped.draws_pure id

lemma Step.decoder_draws {j : Json} {step : Stamped Step} (h : Step.decoder j = .ok step) :
    step.Draws := by
  obtain ⟨f, h₀⟩ := asRecord_eq_ok h
  obtain ⟨_, _, h₁, -, rfl⟩ := Checked.apply_eq_ok h₀
  obtain ⟨_, _, h₂, -, rfl⟩ := Checked.apply_eq_ok h₁
  obtain ⟨_, _, h₃, -, rfl⟩ := Checked.apply_eq_ok h₂
  obtain ⟨_, _, h₄, -, rfl⟩ := Checked.apply_eq_ok h₃
  obtain ⟨_, _, h₅, -, rfl⟩ := Checked.apply_eq_ok h₄
  obtain ⟨_, _, h₆, -, rfl⟩ := Checked.apply_eq_ok h₅
  obtain ⟨_, _, h₇, -, rfl⟩ := Checked.apply_eq_ok h₆
  obtain ⟨_, id, h₈, -, rfl⟩ := Checked.apply_eq_ok h₇
  cases h₈
  exact (idOrNew_draws id).bind fun _ => Stamped.draws_pure _

lemma stepsDecoder_draws {j : Json} {steps : Stamped (List Step)} (h : stepsDecoder j = .ok steps) :
    steps.Draws := by
  unfold stepsDecoder at h
  cases hlist : asList Step.decoder j with
  | error e =>
    rw [hlist] at h
    cases h
  | ok list =>
    rw [hlist] at h
    cases h
    refine Stamped.draws_mapM fun step hstep => ?_
    obtain ⟨j, hj⟩ := asList_eq_ok hlist step hstep
    exact Step.decoder_draws hj

open Endpoint

lemma AgentPayload.decoder_draws {j : Json} {payload : Stamped AgentPayload}
    (h : AgentPayload.decoder j = .ok payload) : payload.Draws := by
  obtain ⟨f, h₀⟩ := asRecord_eq_ok h
  obtain ⟨_, steps, h₁, hsteps, rfl⟩ := Checked.apply_eq_ok h₀
  obtain ⟨_, visibility, h₂, -, rfl⟩ := Checked.apply_eq_ok h₁
  obtain ⟨_, name, h₃, -, rfl⟩ := Checked.apply_eq_ok h₂
  cases h₃
  obtain ⟨j, hj⟩ := Fields.required_eq_ok hsteps
  exact (stepsDecoder_draws hj).bind fun _ => Stamped.draws_pure _

lemma withPayload_draws {request : Http.Request} (f : AgentPayload → Handler Http.Response) :
    (withPayload (payloadOf AgentPayload.decoder request) f).Draws := by
  cases h : payloadOf AgentPayload.decoder request with
  | error r => exact Stamped.draws_pure _
  | ok payload =>
    refine Stamped.Draws.bind ?_ fun payload => Stamped.draws_pure (f payload)
    unfold payloadOf at h
    split_ifs at h
    split at h <;> cases h
    next hdecode =>
      obtain ⟨j, hj⟩ := decodeBytes_eq_ok hdecode
      exact AgentPayload.decoder_draws hj

/-- The endpoints of a route take stamps only for the steps of an agent that is sent. -/
theorem Route.endpoints_draws {default : String} {request : Http.Request} {route : Route} :
    ∀ e ∈ route.endpoints default request, e.2.Draws := by
  have hput (part : List Char) : (putAgent part request).Draws := by
    unfold putAgent
    cases pathId part with
    | error r => exact Stamped.draws_pure _
    | ok id => exact withPayload_draws (replaceAgent id)
  cases route <;>
    simp [endpoints, Stamped.draws_pure, postAgent, withPayload_draws, hput]

end Parley
