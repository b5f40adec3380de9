import Parley.Proofs.Server.Relay

/-!
# What is stored and what was seen

A delta is kept without the blanks a reply would start with, and sent without its NUL characters.
So the stored text of a reply and the text that a client reads differ in just these: up to blanks at
the start they agree where NUL characters are left out, and no NUL came if nothing else differs.
-/

namespace Parley

open Relay (deltas)

namespace Reply

/-- The part of a text that is sent. -/
def shown (text : String) : String := String.ofList (visible text.toList)

lemma shown_eq_self_iff {text : String} : shown text = text ↔ '\x00' ∉ text.toList := by
  rw [shown, ← String.toList_inj, String.toList_ofList, visible, List.filter_eq_self]
  refine ⟨fun h hmem => ?_, fun h c hc => ?_⟩
  · simpa using h _ hmem
  · exact decide_eq_true fun hnul => h (hnul ▸ hc)

lemma nul_not_mem_shown (text : String) : '\x00' ∉ (shown text).toList := by
  simp [shown, visible]

end Reply

namespace Text

open Reply (shown visible)

lemma Chars.trimStart_visible (cs : List Char) :
    trimStart (visible (trimStart cs)) = trimStart (visible cs) := by
  induction cs with
  | nil => rfl
  | cons c cs ih =>
    by_cases hblank : isBlank c
    · have hskip : trimStart (c :: cs) = trimStart cs := List.dropWhile_cons_of_pos hblank
      rw [hskip, ih, visible, visible, List.filter_cons]
      split_ifs
      · exact (List.dropWhile_cons_of_pos hblank).symm
      · rfl
    · have hkeep : trimStart (c :: cs) = c :: cs := List.dropWhile_cons_of_neg hblank
      rw [hkeep]

lemma trimStart_shown (s : String) : trimStart (shown (trimStart s)) = trimStart (shown s) := by
  simp only [trimStart, shown, String.toList_ofList, Chars.trimStart_visible]

lemma nul_mem_trimStart {s : String} : '\x00' ∈ (trimStart s).toList ↔ '\x00' ∈ s.toList := by
  rw [trimStart, String.toList_ofList, Chars.trimStart]
  refine ⟨fun h => (List.dropWhile_suffix _).mem h, fun h => ?_⟩
  rw [← List.takeWhile_append_dropWhile (p := isBlank) (l := s.toList), List.mem_append] at h
  refine h.resolve_left fun hblank => ?_
  have hnul := List.all_takeWhile (p := isBlank) (l := s.toList)
  rw [List.all_eq_true] at hnul
  exact absurd (hnul _ hblank) (by decide)

/-- Leaving out the NUL characters makes no difference to the trimmed text only if there are none.
-/
lemma trimStart_eq_trimStart_shown_iff {s : String} :
    trimStart s = trimStart (shown s) ↔ '\x00' ∉ s.toList := by
  refine ⟨fun h hnul => ?_, fun h => by rw [Reply.shown_eq_self_iff.2 h]⟩
  have hmem := nul_mem_trimStart.2 hnul
  rw [h, nul_mem_trimStart] at hmem
  exact Reply.nul_not_mem_shown s hmem

end Text

variable {w w₁ : World} {s : Stream} {t : Turn} {m : Id} {chunks : List Reply.Bytes} {b : Body}
  {body : List Reply.Chunk}

/-- A client that reads a reply to the end of its body and finds that it succeeded has read all
deltas without their NUL characters, while they are stored without the blanks at their start. Both
texts agree once each has lost both, and the stored one is the trimmed one that was read just where
no delta had a NUL. -/
theorem reply_seen (hm : t.aiMessageId = some m) (ht : t.aiText = "")
    (hreading : Reading w (.ofTurn t s) chunks w₁ b) (hover : w₁.pull b = (.over, b, w₁))
    (halone : ∀ c ∈ w.cleanups, c.messageId ≠ m) (hbody : Reply.received body = chunks.flatten)
    (hsuccess : .ok (.status .success) ∈ Reply.decode body) :
    ∃ (texts ds : List String) (stored : String),
      Reply.decode body = texts.map (fun text => .ok (.text text)) ++ [.ok (.status .success)] ∧
      ds.map .ok <+: s.feed.items.map (·.value) ∧
      (s.closed = false → s.feed.items.map (·.value) = ds.map .ok) ∧
      w₁.chats.memory.content? m = some stored ∧
      stored = Text.trimStart (String.join ds) ∧
      String.join texts = Reply.shown (String.join ds) ∧
      Text.trimStart (Reply.shown stored) = Text.trimStart (String.join texts) ∧
      (stored = Text.trimStart (String.join texts) ↔ ∀ d ∈ ds, '\x00' ∉ d.toList) := by
  obtain ⟨log, s₁, r, status, hsession, hsent, htruthful⟩ := reading_truthful hm hreading hover
  obtain rfl := (truthful_decode htruthful (hbody.trans hsent) .success).1 hsuccess
  have hended := htruthful.faithful.ended_of_saved (htruthful.faithful.success_iff.1 rfl).2
  have htaken := session_taken hsession
  have hstored := (truthful_stored hsession htruthful halone).1
  rw [Turn.textWith, if_pos ht] at hstored
  obtain ⟨text, hframed⟩ := (Reply.status_mem_decode body .success).1 hsuccess
  obtain ⟨texts, rfl, hdecode⟩ := Reply.decode_of_framed hframed
  rw [hbody, hsent] at hframed
  have hsaw := (hframed.unique (truthful_framed htruthful)).1
  rw [← Reply.shown] at hsaw
  refine ⟨texts, deltas log, _, hdecode, htaken.front, htaken.whole hended, hstored, rfl, hsaw,
    ?_, ?_⟩
  · rw [hsaw, Text.trimStart_shown]
  · rw [hsaw, Text.trimStart_eq_trimStart_shown_iff]
    simp [String.toList_join]

/-- One delta with a blank at its start is sent as it is, and stored without the blank. -/
theorem reply_seen_blank :
    ∃ (w w₁ : World) (s : Stream) (t : Turn) (m : Id) (chunks : List Reply.Bytes) (b : Body)
      (texts ds : List String) (stored : String),
      Reading w (.ofTurn t s) chunks w₁ b ∧ w₁.pull b = (.over, b, w₁) ∧
      s.feed.items.map (·.value) = [.ok " hi"] ∧
      Reply.decode (chunks.map .ok) =
        texts.map (fun text => .ok (.text text)) ++ [.ok (.status .success)] ∧
      w₁.chats.memory.content? m = some stored ∧
      (stored = Text.trimStart (String.join texts) ↔ ∀ d ∈ ds, '\x00' ∉ d.toList) := by
  let t : Turn :=
    { chatId := .ofNat 1, userMessageId := .ofNat 2, aiMessageId := some (.ofNat 3),
      createdChat := false }
  let chat : Chat :=
    { id := .ofNat 1, name := "", createdAt := default, updatedAt := default,
      messages := [⟨.ofNat 3, .ofNat 1, .ai, "", default⟩] }
  let w : World :=
    { model := .unreachable, stamps := ⟨fun _ => default, 0⟩, chats := ⟨{ chats := [chat] }, {}⟩ }
  let s : Stream := ⟨{ items := [.atOnce (.ok " hi")] }, 0, .ofMillis 0, false⟩
  obtain ⟨chunks, b, w₁, hread, hreading, hover⟩ := read_ended (w := w) rfl (.ofTurn t s)
  have hchunks : chunks = [Text.Utf8.ofString " hi", Reply.encodeStatus .success] :=
    (congrArg (·.1) hread).symm.trans (by decide +kernel)
  have hreceived : Reply.received (chunks.map .ok) = chunks.flatten := by
    rw [hchunks]
    rfl
  have hbody : Reply.decode (chunks.map .ok) =
      [" hi"].map (fun text => .ok (.text text)) ++ [.ok (.status .success)] := by
    rw [hchunks]
    rfl
  have hsuccess : .ok (.status .success) ∈ Reply.decode (chunks.map .ok) := by
    rw [hbody]
    exact List.mem_concat_self
  obtain ⟨texts, ds, stored, hdecode, -, -, hstored, -, -, -, hiff⟩ :=
    reply_seen (m := .ofNat 3) rfl rfl hreading hover (List.forall_mem_nil _) hreceived hsuccess
  exact ⟨w, w₁, s, t, _, chunks, b, texts, ds, stored, hreading, hover, rfl, hdecode, hstored, hiff⟩

/-- What is stored need not be the trimmed text that a client read: a NUL in a delta is stored. -/
theorem stored_ne_seen :
    ¬∀ (w w₁ : World) (s : Stream) (t : Turn) (m : Id) (chunks : List Reply.Bytes) (b : Body)
      (texts : List String), t.aiMessageId = some m → t.aiText = "" →
      Reading w (.ofTurn t s) chunks w₁ b → w₁.pull b = (.over, b, w₁) → w.cleanups = [] →
      Reply.decode (chunks.map .ok) =
        texts.map (fun text => .ok (.text text)) ++ [.ok (.status .success)] →
      w₁.chats.memory.content? m = some (Text.trimStart (String.join texts)) := by
  intro h
  let t : Turn :=
    { chatId := .ofNat 1, userMessageId := .ofNat 2, aiMessageId := some (.ofNat 3),
      createdChat := false }
  let chat : Chat :=
    { id := .ofNat 1, name := "", createdAt := default, updatedAt := default,
      messages := [⟨.ofNat 3, .ofNat 1, .ai, "", default⟩] }
  let w : World :=
    { model := .unreachable, stamps := ⟨fun _ => default, 0⟩, chats := ⟨{ chats := [chat] }, {}⟩ }
  let s : Stream := ⟨{ items := [.atOnce (.ok "a\x00b")] }, 0, .ofMillis 0, false⟩
  obtain ⟨chunks, b, w₁, hread, hreading, hover⟩ := read_ended (w := w) rfl (.ofTurn t s)
  have hchunks : chunks = [Text.Utf8.ofString "ab", Reply.encodeStatus .success] :=
    (congrArg (·.1) hread).symm.trans (by decide +kernel)
  have hstored : w₁.chats.memory.content? (.ofNat 3) = some "a\x00b" :=
    (congrArg (·.2.2.2.chats.memory.content? (.ofNat 3)) hread).symm.trans (by decide +kernel)
  have hdecode : Reply.decode (chunks.map .ok) =
      ["ab"].map (fun text => .ok (.text text)) ++ [.ok (.status .success)] := by
    rw [hchunks]
    rfl
  have hsame := h w w₁ s t _ chunks b ["ab"] rfl rfl hreading hover rfl hdecode
  rw [hstored] at hsame
  exact absurd hsame (by decide +kernel)

end Parley
