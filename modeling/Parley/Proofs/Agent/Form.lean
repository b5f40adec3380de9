import Parley.Agent.Roster
import Parley.Proofs.Chat.Form

/-!
# Agents read back

A roster is read back from its text (`Roster.decode_text`), if all its times are proper ones and no
two agents have one identifier. Every step is written with its identifier, so reading draws no
stamps.
-/

namespace Parley

open Json

lemma Condition.decoder_toJson (c : Condition) : Condition.decoder c.toJson = .ok c := by
  rw [Condition.decoder, Condition.toJson]
  refine asRecord_object rfl (by simp) fun f hf => ?_
  rw [hf.required (by simp) (asText_text c.name),
    hf.withDefault (by simp) (asOption_text c.pattern)]
  rfl

lemma SeedMessage.decoder_toJson (m : SeedMessage) : SeedMessage.decoder m.toJson = .ok m := by
  rw [SeedMessage.decoder, SeedMessage.toJson]
  refine asRecord_object rfl (by simp) fun f hf => ?_
  rw [hf.required (by simp) m.sender.decoder_toJson, hf.required (by simp) (asText_text m.content)]
  rfl

lemma asFlag_bool (b : Bool) : asFlag (.bool b) = .ok b := rfl

lemma Step.decoder_toJson (s : Step) : Step.decoder s.toJson = .ok (pure s) := by
  have hid : (Id.decoder s.id.toJson).map some = .ok (some s.id) :=
    congrArg (Except.map some) s.id.decoder_toJson
  have hconditions : asList Condition.decoder (.list (s.conditions.map Condition.toJson)) =
      .ok s.conditions := asList_self fun c _ => c.decoder_toJson
  have hmessages : asList SeedMessage.decoder (.list (s.messages.map SeedMessage.toJson)) =
      .ok s.messages := asList_self fun m _ => m.decoder_toJson
  rw [Step.decoder, Step.toJson]
  refine asRecord_object rfl (by simp) fun f hf => ?_
  rw [hf.withDefault (x := s.id.toJson) (d := fun j => (Id.decoder j).map some) (by simp) hid,
    hf.required (by simp) (asText_text s.name),
    hf.required (by simp) (asText_text s.systemTemplate),
    hf.required (by simp) (asText_text s.messageTemplate),
    hf.withDefault (by simp) (asFlag_bool s.includeChatHistory),
    hf.withDefault (by simp) (asFlag_bool s.onlyIfPreviousMessages),
    hf.withDefault (by simp) hconditions, hf.withDefault (by simp) hmessages]
  rfl

lemma mapM_map_pure {α : Type} (as : List α) :
    (as.map pure).mapM id = (pure as : Stamped (List α)) := by
  rw [List.mapM_map]
  exact (mapM_eq_pure fun _ _ => rfl).trans (congrArg pure as.map_id)

lemma stepsDecoder_toJson (steps : List Step) :
    stepsDecoder (.list (steps.map Step.toJson)) = .ok (pure steps) := by
  rw [stepsDecoder, asList_map fun s _ => s.decoder_toJson, ← mapM_map_pure]
  rfl

lemma Visibility.decoder_toJson (v : Visibility) : Visibility.decoder v.toJson = .ok v := by
  cases v <;> rfl

/-- All times of an agent are proper ones. -/
structure Agent.Timely (a : Agent) : Prop where
  createdAt : a.createdAt.Proper
  updatedAt : a.updatedAt.Proper

lemma Agent.decoder_toJson {a : Agent} (h : a.Timely) :
    Agent.decoder a.toJson = .ok (pure a) := by
  rw [Agent.decoder, Agent.toJson]
  refine asRecord_object rfl (by simp) fun f hf => ?_
  rw [hf.required (by simp) a.id.decoder_toJson, hf.required (by simp) (asText_text a.name),
    hf.withDefault (by simp) a.visibility.decoder_toJson,
    hf.required (by simp) (stepsDecoder_toJson a.steps),
    hf.required (by simp) (Timestamp.decoder_toJson h.createdAt),
    hf.required (by simp) (Timestamp.decoder_toJson h.updatedAt)]
  rfl

@[simp] lemma Visibility.plain_toJson (v : Visibility) : v.toJson.plain := rfl

lemma Condition.plain_toJson (c : Condition) : c.toJson.plain := plain_object (by simp)

lemma SeedMessage.plain_toJson (m : SeedMessage) : m.toJson.plain := plain_object (by simp)

lemma Step.plain_toJson (s : Step) : s.toJson.plain :=
  plain_object (by simp [plain_list, Condition.plain_toJson, SeedMessage.plain_toJson])

lemma Agent.plain_toJson (a : Agent) : a.toJson.plain :=
  plain_object (by simp [plain_list, Step.plain_toJson])

namespace Roster

lemma plain_toJson (r : Roster) : r.toJson.plain := plain_list fun a _ => a.plain_toJson

/-- Agents with identifiers of their own are all kept. -/
lemma ofAgents_eq {agents : List Agent} (h : (agents.map (·.id)).Nodup) :
    ofAgents agents = ⟨agents⟩ := by
  have hstep : ∀ (kept : List Agent) (a : Agent), (erase ⟨kept⟩ a.id).insert a =
      ⟨kept.filter (·.id ≠ a.id) ++ [a]⟩ := fun _ _ => rfl
  exact (List.foldl_hom Roster.mk hstep).trans (congrArg Roster.mk (foldl_replace h))

/-- All times of a roster are proper ones. -/
def Timely (r : Roster) : Prop := ∀ a ∈ r.agents, a.Timely

theorem decode_text {r : Roster} (htimely : r.Timely) (hids : (r.agents.map (·.id)).Nodup) :
    Json.decode decoder r.text = .ok (pure r) := by
  have hagents : asList Agent.decoder (.list (r.agents.map Agent.toJson)) =
      .ok (r.agents.map pure) := asList_map fun a ha => Agent.decoder_toJson (htimely a ha)
  have hroster : (pure r : Stamped Roster) = pure (ofAgents r.agents) :=
    congrArg pure (ofAgents_eq hids).symm
  rw [text, decode_pretty r.plain_toJson, decoder, toJson, hagents, hroster]
  change Except.ok ((r.agents.map pure).mapM id >>= fun agents => pure (ofAgents agents)) = _
  rw [mapM_map_pure, pure_bind]

end Roster

end Parley
