import Parley.Proofs.Reply.Decoding

/-!
# What a decoder holds back

`Decoder.Keeps` says where the bytes are that a decoder has read: first come those of the texts that
it gave out, and what it holds follows them. In front of the mark it holds no more than the start
of a character and one NUL, behind it no more than the start of a status word, and no chunk changes
that (`pending_of_feed`). The bytes that are taken as text are a text by themselves
(`takeText_taken`, `wholeText_taken`).
-/

namespace Parley.Reply

open Text

/-- The bytes of the text of a frame. -/
def Frame.bytes : Frame → Bytes
  | text s => Utf8.ofString s
  | status _ => []

/-- Nothing that was read is lost or given out twice, and nothing is held back that could be given
out. -/
structure Decoder.Keeps (d : Decoder) (bytes : Bytes) (frames : List Frame) : Prop where
  streaming : d.stage = .streaming →
    bytes = frames.flatMap Frame.bytes ++ d.pending ∧ ¬sentinel <:+: bytes ∧
      d.pending.length ≤ 4 ∧ ∃ part nul, d.pending = part ++ nul ∧ Utf8.Begun part ∧
        part.length ≤ 3 ∧ (nul = [0] ∨ nul = [])
  statusPending : d.stage = .statusPending →
    bytes = frames.flatMap Frame.bytes ++ sentinel ++ d.pending ∧
      ∃ s : Status, d.pending <+: s.token ∧ d.pending ≠ s.token
  done : d.stage = .done → d.pending = [] ∧
    ∃ (s : Status) (rest : Bytes),
      bytes = frames.flatMap Frame.bytes ++ sentinel ++ s.token ++ rest

variable {bs held : Bytes} {cs : List Char}

lemma bytes_texts (texts : List String) :
    (texts.map Frame.text).flatMap Frame.bytes = Utf8.ofString (String.join texts) := by
  rw [Utf8.ofString, String.toList_join, Utf8.encode, List.flatMap_assoc, List.flatMap_map]
  rfl

/-- What is taken as text is the encoding of that text, and the rest is held back. -/
lemma eq_of_takeText (h : takeText bs = .ok (cs, held)) : bs = Utf8.encode cs ++ held := by
  obtain ⟨nul, hnul, -⟩ := dropFinalNul_append bs
  by_cases hp : Utf8.Promising (dropFinalNul bs)
  · obtain ⟨ds, part, hscan⟩ := hp
    have hbytes : bs = Utf8.encode ds ++ (part ++ nul) := by
      rw [← List.append_assoc, ← Utf8.eq_encode_append hscan, ← hnul]
    rw [takeText_chars hscan] at h
    cases h
    rw [hbytes, List.drop_left]
  · obtain ⟨e, he⟩ := takeText_malformed hp
    cases h.symm.trans he

/-- The bytes in front of those held back are read as the same text once more. -/
lemma takeText_taken (h : takeText bs = .ok (cs, held)) :
    ∃ taken, bs = taken ++ held ∧ Utf8.toString? taken = some (String.ofList cs) :=
  ⟨Utf8.encode cs, eq_of_takeText h, Utf8.toString?_encode cs⟩

lemma wholeText_taken (h : wholeText bs = .ok cs) :
    Utf8.toString? bs = some (String.ofList cs) := by
  obtain ⟨ds, rfl, hds⟩ | ⟨-, e, he⟩ := wholeText_eq bs
  · cases h.symm.trans hds
    exact Utf8.toString?_encode cs
  · cases h.symm.trans he

/-- What is no status yet, but may become one, is the start of a status word. -/
lemma start_of_readStatus (h : readStatus held = .ok none) :
    ∃ s : Status, held <+: s.token ∧ held ≠ s.token := by
  obtain ⟨s, hs⟩ := prefix_of_readStatus h
  refine ⟨s, hs, ?_⟩
  rintro rfl
  have htoken := readStatus_token s []
  rw [List.append_nil, h] at htoken
  cases htoken

lemma Follows.keeps {bytes : Bytes} {frames : List Frame} {d : Decoder}
    (h : Follows bytes frames d) : d.Keeps bytes frames := by
  cases h with
  | @streaming part nul texts hclear hbytes hpart hnul =>
    have hform : Utf8.form part = .unfinished := by
      have hheld := Utf8.form_scan_nil part
      rwa [hpart] at hheld
    have hbegun := Utf8.begun_of_unfinished hform
    have hlength := hbegun.length_lt
    refine ⟨fun _ => ⟨?_, splitSentinel_eq_none_iff.1 hclear, ?_, part, nul, rfl, hbegun, ?_, hnul⟩,
      nofun, nofun⟩
    · rw [bytes_texts, ← hbytes]
    · rw [List.length_append]
      obtain rfl | rfl := hnul
      · exact Nat.succ_le_of_lt hlength
      · exact Nat.le_of_lt hlength
    · exact Nat.le_of_lt_succ hlength
  | statusPending hsplit hpart =>
    obtain ⟨-, hbytes⟩ := splitSentinel_eq_some_iff.1 hsplit
    exact ⟨nofun, fun _ => ⟨by rw [bytes_texts, ← hbytes], start_of_readStatus hpart⟩, nofun⟩
  | @done texts s hframed =>
    obtain ⟨-, rest, hbytes⟩ := hframed
    refine ⟨nofun, nofun, fun _ => ⟨rfl, s, rest, ?_⟩⟩
    have hstatus : [Frame.status s].flatMap Frame.bytes = [] := rfl
    rw [List.flatMap_append, bytes_texts, hstatus, List.append_nil, ← hbytes]

/-- After any chunks without a fault, the bytes of the texts given out and the bytes held back are
the bytes that were read. In front of the mark the start of a character and a NUL are held back at
most, behind it the start of a status word, and nothing at the end. Whatever is taken as text reads
as that text by itself. -/
theorem pending_of_feed {chunks : List Bytes} {frames : List Frame} {d : Decoder}
    (h : Decoder.feed {} chunks = (.ok frames, d)) :
    d.Keeps chunks.flatten frames ∧
    (∀ bs cs held, takeText bs = .ok (cs, held) →
      ∃ taken, bs = taken ++ held ∧ Utf8.toString? taken = some (String.ofList cs)) ∧
    ∀ bs cs, wholeText bs = .ok cs → Utf8.toString? bs = some (String.ofList cs) := by
  have hfollows := feed_follows follows_nil chunks
  rw [h, Pushed, List.nil_append, List.nil_append] at hfollows
  exact ⟨hfollows.keeps, fun bs cs held => takeText_taken, fun bs cs => wholeText_taken⟩

/-- The first half of a letter and a NUL are held back together. -/
theorem pending_of_feed_both :
    Decoder.feed {} [[72, 0xc3], [0]] = (.ok [.text "H"], ⟨.streaming, [0xc3, 0]⟩) ∧
    Decoder.Keeps ⟨.streaming, [0xc3, 0]⟩ [72, 0xc3, 0] [.text "H"] ∧
    ∃ taken, [72, 0xc3, 0] = taken ++ [0xc3, 0] ∧ Utf8.toString? taken = some "H" := by
  have hfeed : Decoder.feed {} [[72, 0xc3], [0]] =
      (.ok [.text "H"], ⟨.streaming, [0xc3, 0]⟩) := rfl
  obtain ⟨hkeeps, htaken, -⟩ := pending_of_feed hfeed
  exact ⟨hfeed, hkeeps, htaken _ ['H'] _ rfl⟩

end Parley.Reply
