import Parley.Chat.Ledger
import Parley.Proofs.Json.Records
import Parley.Proofs.Time.Text

/-!
# Chats read back

A ledger is read back from its text (`Ledger.decode_text`), if all its times are proper ones and no
two chats have one identifier.
-/

namespace Parley

open Json

lemma asParsed_text {α : Type} {f : String → Option α} {s : String} {a : α} (h : f s = some a) :
    asParsed f (.text s) = .ok a := by
  simp only [asParsed, asText, h, bind, Except.bind]

lemma Id.decoder_toJson (i : Id) : Id.decoder i.toJson = .ok i := asParsed_text i.parse?_text

lemma Timestamp.decoder_toJson {t : Timestamp} (h : t.Proper) :
    Timestamp.decoder t.toJson = .ok t := asParsed_text (parse?_text h)

lemma Sender.decoder_toJson (s : Sender) : Sender.decoder s.toJson = .ok s := by
  cases s <;> rfl

lemma asText_text (s : String) : asText (.text s) = .ok s := rfl

lemma asOption_text (o : Option String) : asOption asText (ofOption .text o) = .ok o := by
  have hnull : ∀ s, Json.text s ≠ .null := fun _ => nofun
  exact asOption_ofOption hnull asText_text o

lemma asOption_id (o : Option Id) : asOption Id.decoder (ofOption Id.toJson o) = .ok o := by
  have hnull : ∀ i : Id, i.toJson ≠ .null := fun _ => nofun
  exact asOption_ofOption hnull Id.decoder_toJson o

lemma Message.decoder_toJson {m : Message} (h : m.createdAt.Proper) :
    Message.decoder m.toJson = .ok m := by
  rw [Message.decoder, Message.toJson]
  refine asRecord_object rfl (by simp) fun f hf => ?_
  rw [hf.required (by simp) m.id.decoder_toJson, hf.required (by simp) m.chatId.decoder_toJson,
    hf.required (by simp) m.sender.decoder_toJson, hf.required (by simp) (asText_text m.content),
    hf.required (by simp) (Timestamp.decoder_toJson h)]
  rfl

lemma ChatSettings.decoder_toJson (s : ChatSettings) :
    ChatSettings.decoder s.toJson = .ok s := by
  rw [ChatSettings.decoder, ChatSettings.toJson]
  refine asRecord_object rfl (by simp) fun f hf => ?_
  rw [hf.withDefault (by simp) (asOption_text s.prompt),
    hf.withDefault (by simp) (asOption_id s.agentId)]
  rfl

lemma GlobalSettings.decoder_toJson (s : GlobalSettings) :
    GlobalSettings.decoder s.toJson = .ok s := by
  rw [GlobalSettings.decoder, GlobalSettings.toJson]
  refine asRecord_object rfl (by simp) fun f hf => ?_
  rw [hf.withDefault (by simp) (asOption_text s.prompt)]
  rfl

/-- All times of a chat are proper ones. -/
structure Chat.Timely (c : Chat) : Prop where
  createdAt : c.createdAt.Proper
  updatedAt : c.updatedAt.Proper
  messages : ∀ m ∈ c.messages, m.createdAt.Proper

lemma Chat.decoder_toJson {c : Chat} (h : c.Timely) : Chat.decoder c.toJson = .ok c := by
  have hmessages : asList Message.decoder (.list (c.messages.map Message.toJson)) =
      .ok c.messages := asList_self fun m hm => Message.decoder_toJson (h.messages m hm)
  rw [Chat.decoder, Chat.toJson]
  refine asRecord_object rfl (by simp) fun f hf => ?_
  rw [hf.required (by simp) c.id.decoder_toJson, hf.required (by simp) (asText_text c.name),
    hf.withDefault (by simp) hmessages, hf.withDefault (by simp) c.settings.decoder_toJson,
    hf.required (by simp) (Timestamp.decoder_toJson h.createdAt),
    hf.required (by simp) (Timestamp.decoder_toJson h.updatedAt)]
  rfl

@[simp] lemma Id.plain_toJson (i : Id) : i.toJson.plain := rfl

@[simp] lemma Timestamp.plain_toJson (t : Timestamp) : t.toJson.plain := rfl

@[simp] lemma Sender.plain_toJson (s : Sender) : s.toJson.plain := rfl

@[simp] lemma plain_optionalText (o : Option String) : (ofOption .text o).plain :=
  plain_ofOption plain_text o

lemma Message.plain_toJson (m : Message) : m.toJson.plain := plain_object (by simp)

lemma ChatSettings.plain_toJson (s : ChatSettings) : s.toJson.plain :=
  plain_object (by simp [plain_ofOption Id.plain_toJson])

lemma GlobalSettings.plain_toJson (s : GlobalSettings) : s.toJson.plain := plain_object (by simp)

lemma Chat.plain_toJson (c : Chat) : c.toJson.plain :=
  plain_object (by simp [plain_list, Message.plain_toJson, ChatSettings.plain_toJson])

namespace Ledger

lemma plain_toJson (l : Ledger) : l.toJson.plain :=
  plain_object (by simp [plain_list, Chat.plain_toJson, GlobalSettings.plain_toJson])

/-- Chats with identifiers of their own are all kept. -/
lemma ofChats_eq {chats : List Chat} (h : (chats.map (·.id)).Nodup) (settings : GlobalSettings) :
    ofChats chats settings = { chats, settings } := by
  have hstep : ∀ (kept : List Chat) (c : Chat), (erase { chats := kept, settings } c.id).insert c =
      { chats := kept.filter (·.id ≠ c.id) ++ [c], settings } := fun _ _ => rfl
  refine (List.foldl_hom (fun chats : List Chat => ({ chats, settings } : Ledger)) hstep).trans ?_
  exact congrArg (fun chats => ({ chats, settings } : Ledger)) (foldl_replace h)

/-- All times of a ledger are proper ones. -/
def Timely (l : Ledger) : Prop := ∀ c ∈ l.chats, c.Timely

theorem decode_text {l : Ledger} (htimely : l.Timely) (hids : (l.chats.map (·.id)).Nodup) :
    Json.decode decoder l.text = .ok l := by
  have hchats : asList Chat.decoder (.list (l.chats.map Chat.toJson)) = .ok l.chats :=
    asList_self fun c hc => Chat.decoder_toJson (htimely c hc)
  rw [text, decode_pretty l.plain_toJson, decoder, toJson]
  refine asRecord_object rfl (by simp) fun f hf => ?_
  rw [hf.withDefault (by simp) hchats, hf.withDefault (by simp) l.settings.decoder_toJson]
  exact congrArg Except.ok (ofChats_eq hids l.settings)

end Ledger

end Parley
