import Parley.Proofs.Reply.Grammar

/-!
# Decoding a reply in chunks

`Follows bytes frames d` relates a decoder to all the bytes it has read and all the frames it has
given out. A chunk takes it from the bytes before to the bytes after, or shows that no continuation
of the bytes is a reply (`push_follows`). So all chunks of a reply bring its text and its status,
wherever the bytes are cut.
-/

namespace Parley.Reply

open Text

/-- No continuation of some bytes is a reply. -/
def Hopeless (bytes : Bytes) : Prop := ∀ more text s, ¬Framed text s (bytes ++ more)

/-- A decoder that has read some bytes and given out some frames. While it looks for the mark it
holds back a part of a character and at most one NUL. -/
inductive Follows : Bytes → List Frame → Decoder → Prop
  | streaming {bytes part nul : Bytes} {texts : List String} (hclear : splitSentinel bytes = none)
      (hbytes : bytes = Utf8.ofString (String.join texts) ++ (part ++ nul))
      (hpart : Utf8.scan [] part = ([], part)) (hnul : nul = [0] ∨ nul = [])
      (hedge : nul = [] → bytes.getLast? ≠ some 0) :
      Follows bytes (texts.map .text) ⟨.streaming, part ++ nul⟩
  | statusPending {bytes held : Bytes} {texts : List String}
      (hsplit : splitSentinel bytes = some (Utf8.ofString (String.join texts), held))
      (hpart : readStatus held = .ok none) : Follows bytes (texts.map .text) ⟨.statusPending, held⟩
  | done {bytes : Bytes} {texts : List String} {s : Status}
      (hframed : Framed (String.join texts) s bytes) :
      Follows bytes (texts.map .text ++ [.status s]) ⟨.done, []⟩

/-- What becomes of a decoder that gave out `frames`, when a push has brought it to `bytes`. -/
def Pushed (bytes : Bytes) (frames : List Frame) :
    Except ProtocolFault (List Frame) × Decoder → Prop
  | (.ok new, d) => Follows bytes (frames ++ new) d
  | (.error _, _) => Hopeless bytes

lemma follows_nil : Follows [] [] {} :=
  @Follows.streaming [] [] [] [] rfl rfl rfl (.inr rfl) (by simp)

lemma Hopeless.append {bytes : Bytes} (h : Hopeless bytes) (more : Bytes) :
    Hopeless (bytes ++ more) := by
  intro rest text s hframed
  exact h (more ++ rest) text s (by rwa [← List.append_assoc])

lemma ofString_append (s t : String) :
    Utf8.ofString (s ++ t) = Utf8.ofString s ++ Utf8.ofString t := by
  simp [Utf8.ofString, Utf8.encode]

lemma ofString_join_append (texts new : List String) :
    Utf8.ofString (String.join (texts ++ new)) =
      Utf8.ofString (String.join texts) ++ Utf8.ofString (String.join new) := by
  rw [String.join_append, ofString_append]

lemma exists_texts (cs : List Char) :
    ∃ new : List String, frameOf cs = new.map .text ∧
      Utf8.ofString (String.join new) = Utf8.encode cs := by
  unfold frameOf
  split_ifs with h
  · obtain rfl := List.isEmpty_iff.1 h
    exact ⟨[], rfl, rfl⟩
  · exact ⟨[String.ofList cs], rfl, by simp [Utf8.ofString]⟩

lemma pushed_awaitStatus {bytes after : Bytes} {texts new : List String}
    (h : splitSentinel bytes = some (Utf8.ofString (String.join (texts ++ new)), after)) :
    Pushed bytes (texts.map .text) (Decoder.awaitStatus (new.map .text) after) := by
  unfold Decoder.awaitStatus
  split
  · next s hs =>
    obtain ⟨rest, rfl⟩ := eq_token_append hs
    rw [Pushed, ← List.append_assoc, ← List.map_append]
    exact .done (framed_iff.2 ⟨rest, h⟩)
  · next hs =>
    rw [Pushed, ← List.map_append]
    exact .statusPending h hs
  · next e hs =>
    intro more text s hframed
    obtain ⟨rest, hrest⟩ := framed_iff.1 hframed
    rw [splitSentinel_more h, Option.some.injEq, Prod.mk.injEq] at hrest
    exact readStatus_error hs hrest.2

lemma dropFinalNul_append (bs : Bytes) :
    ∃ nul, bs = dropFinalNul bs ++ nul ∧
      (nul = [0] ∨ nul = [] ∧ bs.getLast? ≠ some 0) := by
  unfold dropFinalNul
  split_ifs with h
  · obtain ⟨front, rfl⟩ := List.getLast?_eq_some_iff.1 h
    exact ⟨[0], by rw [List.dropLast_concat], .inl rfl⟩
  · exact ⟨[], (List.append_nil bs).symm, .inr ⟨rfl, h⟩⟩

lemma takeText_chars {bs part : Bytes} {cs : List Char}
    (h : Utf8.scan [] (dropFinalNul bs) = (cs.map .char, part)) :
    takeText bs = .ok (cs, bs.drop (Utf8.encode cs).length) := by
  have hbytes := Utf8.eq_encode_append h
  unfold takeText
  rw [Utf8.validPrefix_chars h]
  by_cases hpart : part = []
  · subst hpart
    rw [List.append_nil] at hbytes
    simp [hbytes]
  · simp [hpart]

lemma takeText_malformed {bs : Bytes} (h : ¬Utf8.Promising (dropFinalNul bs)) :
    ∃ e, takeText bs = .error e := by
  obtain ⟨cs, i, n, hv⟩ := Utf8.validPrefix_malformed h
  exact ⟨_, by simp only [takeText, hv]; rfl⟩

lemma wholeText_eq (bs : Bytes) :
    (∃ cs, bs = Utf8.encode cs ∧ wholeText bs = .ok cs) ∨
      (¬∃ cs, bs = Utf8.encode cs) ∧ ∃ e, wholeText bs = .error e := by
  unfold wholeText
  split
  · next cs h => exact .inl ⟨cs, (Utf8.validPrefix_eq_none_iff bs cs).1 h, rfl⟩
  · next flaw h =>
    refine .inr ⟨?_, _, rfl⟩
    rintro ⟨cs, hcs⟩
    rw [(Utf8.validPrefix_eq_none_iff bs cs).2 hcs] at h
    simp at h

lemma getLast?_append_ne {xs bs : Bytes} (hbs : bs.getLast? ≠ some 0)
    (hxs : bs = [] → xs.getLast? ≠ some 0) : (xs ++ bs).getLast? ≠ some 0 := by
  intro h
  rw [List.getLast?_append, Option.or_eq_some_iff] at h
  rcases h with h | ⟨hnone, h⟩
  · exact hbs h
  · exact hxs (List.getLast?_eq_none_iff.1 hnone) h

/-- As long as a reply may follow, the bytes in front of a NUL at the end are the start of a text.
-/
lemma promising_dropFinalNul {cs : List Char} {bs more after : Bytes} {text : String}
    (hclear : splitSentinel (Utf8.encode cs ++ bs) = none)
    (h : Utf8.encode cs ++ bs ++ more = Utf8.ofString text ++ sentinel ++ after) :
    Utf8.Promising (dropFinalNul bs) := by
  by_cases hbs : bs = []
  · subst hbs
    exact ⟨[], [], rfl⟩
  obtain ⟨nul, hnul, hlast⟩ := dropFinalNul_append bs
  have hp := prefix_of_clear hclear h
  have hfit : Utf8.encode cs ++ dropFinalNul bs <+: Utf8.ofString text := by
    rcases hlast with rfl | ⟨rfl, hlast⟩
    · rw [hnul, ← List.append_assoc, List.prefix_concat_iff] at hp
      rcases hp with heq | hp
      · exact (List.append_cancel_right heq) ▸ List.prefix_rfl
      · exact (List.prefix_append _ _).trans hp
    · rw [List.prefix_concat_iff] at hp
      rw [List.append_nil] at hnul
      rcases hp with heq | hp
      · have hl : (Utf8.encode cs ++ bs).getLast? ≠ some 0 :=
          getLast?_append_ne hlast fun h => absurd h hbs
        rw [heq, List.getLast?_concat] at hl
        exact absurd rfl hl
      · rwa [← hnul]
  obtain ⟨rest, hrest⟩ := hfit
  exact Utf8.promising_of_encode_append (Utf8.promising_of_encode hrest.symm)

/-- The mark is found in what is held back and the next chunk just as it is in all bytes. -/
lemma splitSentinel_held {bytes part nul : Bytes} {texts : List String}
    (hclear : splitSentinel bytes = none)
    (hbytes : bytes = Utf8.ofString (String.join texts) ++ (part ++ nul))
    (hedge : nul = [] → bytes.getLast? ≠ some 0) (chunk : Bytes) :
    splitSentinel (bytes ++ chunk) = (splitSentinel (part ++ nul ++ chunk)).map
      fun p => (Utf8.ofString (String.join texts) ++ p.1, p.2) := by
  have hlast : part ++ nul = [] → (Utf8.ofString (String.join texts)).getLast? ≠ some 0 := by
    intro hnil
    have hlast := hedge (List.append_eq_nil_iff.1 hnil).2
    rwa [hbytes, hnil, List.append_nil] at hlast
  rw [hbytes, List.append_assoc]
  exact splitSentinel_append (hbytes ▸ hclear) hlast

lemma pushed_streaming {bytes part nul chunk : Bytes} {texts : List String}
    (hclear : splitSentinel bytes = none)
    (hbytes : bytes = Utf8.ofString (String.join texts) ++ (part ++ nul))
    (hedge : nul = [] → bytes.getLast? ≠ some 0) :
    Pushed (bytes ++ chunk) (texts.map .text) (Decoder.push ⟨.streaming, part ++ nul⟩ chunk) := by
  have hmore : bytes ++ chunk =
      Utf8.ofString (String.join texts) ++ (part ++ nul ++ chunk) := by
    rw [hbytes, List.append_assoc]
  have hsplit := splitSentinel_held hclear hbytes hedge chunk
  simp only [Decoder.push]
  cases hcut : splitSentinel (part ++ nul ++ chunk) with
  | some cut =>
    obtain ⟨front, after⟩ := cut
    rw [hcut, Option.map_some] at hsplit
    rcases wholeText_eq front with ⟨cs, rfl, hw⟩ | ⟨hbad, e, hw⟩
    · obtain ⟨new, hnew, hjoin⟩ := exists_texts cs
      simp only [hw, hnew]
      apply pushed_awaitStatus
      rw [hsplit, ofString_join_append, hjoin]
    · simp only [hw]
      intro more text s hframed
      obtain ⟨rest, hrest⟩ := framed_iff.1 hframed
      rw [splitSentinel_more hsplit, Option.some.injEq, Prod.mk.injEq] at hrest
      exact hbad (Utf8.exists_encode_of_append hrest.1.symm)
  | none =>
    rw [hcut, Option.map_none] at hsplit
    obtain ⟨nul', hnul, hlast⟩ := dropFinalNul_append (part ++ nul ++ chunk)
    by_cases hp : Utf8.Promising (dropFinalNul (part ++ nul ++ chunk))
    · obtain ⟨cs, part', hscan⟩ := hp
      obtain ⟨new, hnew, hjoin⟩ := exists_texts cs
      have hcs : part ++ nul ++ chunk = Utf8.encode cs ++ (part' ++ nul') := by
        rw [← List.append_assoc, ← Utf8.eq_encode_append hscan, ← hnul]
      simp only [takeText_chars hscan, hnew]
      rw [Pushed, ← List.map_append, hcs, List.drop_left]
      refine .streaming hsplit ?_ (Utf8.scan_held hscan) (hlast.imp_right And.left) ?_
      · rw [hmore, hcs, ofString_join_append, hjoin, List.append_assoc]
      · intro hnil
        rcases hlast with rfl | ⟨_, hlast⟩
        · simp at hnil
        · rw [hmore]
          refine getLast?_append_ne hlast fun hempty => ?_
          simp only [List.append_eq_nil_iff] at hempty
          obtain ⟨⟨rfl, rfl⟩, rfl⟩ := hempty
          simpa [hbytes] using hedge rfl
    · obtain ⟨e, he⟩ := takeText_malformed hp
      simp only [he]
      rintro more text s ⟨_, rest, hframed⟩
      rw [hmore] at hsplit hframed
      rw [List.append_assoc _ s.token] at hframed
      exact hp (promising_dropFinalNul hsplit hframed)

/-- A chunk takes a decoder from the bytes before it to the bytes after it. -/
theorem push_follows {bytes : Bytes} {frames : List Frame} {d : Decoder}
    (h : Follows bytes frames d) (chunk : Bytes) :
    Pushed (bytes ++ chunk) frames (d.push chunk) := by
  cases h with
  | streaming hclear hbytes _ _ hedge => exact pushed_streaming hclear hbytes hedge
  | @statusPending held texts hsplit hpart =>
    refine @pushed_awaitStatus (bytes ++ chunk) (held ++ chunk) texts [] ?_
    rw [List.append_nil]
    exact splitSentinel_more hsplit chunk
  | done hframed =>
    simp only [Decoder.push, Pushed, List.append_nil]
    exact .done (hframed.append chunk)

/-- Pushes chunks one after the other, up to the first fault. -/
def Decoder.feed (d : Decoder) : List Bytes → Except ProtocolFault (List Frame) × Decoder
  | [] => (.ok [], d)
  | chunk :: rest =>
    match d.push chunk with
    | (.error e, d) => (.error e, d)
    | (.ok frames, d) =>
      match d.feed rest with
      | (.error e, d) => (.error e, d)
      | (.ok more, d) => (.ok (frames ++ more), d)

theorem feed_follows {bytes : Bytes} {frames : List Frame} {d : Decoder}
    (h : Follows bytes frames d) (chunks : List Bytes) :
    Pushed (bytes ++ chunks.flatten) frames (d.feed chunks) := by
  induction chunks generalizing bytes frames d with
  | nil => simpa [Decoder.feed, Pushed] using h
  | cons chunk chunks ih =>
    have hpush := push_follows h chunk
    rw [Decoder.feed, List.flatten_cons, ← List.append_assoc]
    rcases hp : d.push chunk with ⟨_ | new, d'⟩ <;> rw [hp] at hpush
    · exact Hopeless.append hpush chunks.flatten
    · have hrest := ih hpush
      dsimp only
      rcases hf : d'.feed chunks with ⟨_ | more, d''⟩ <;> rw [hf] at hrest
      · exact hrest
      · simpa [Pushed] using hrest

lemma ofString_visible (texts : List String) :
    texts.flatMap encodeContent =
      Utf8.ofString (String.ofList (visible (String.join texts).toList)) := by
  rw [Utf8.ofString, String.toList_ofList, String.toList_join, visible, List.filter_flatMap,
    Utf8.encode, List.flatMap_assoc]
  rfl

lemma framed_encoded (texts : List String) (s : Status) :
    Framed (String.ofList (visible (String.join texts).toList)) s
      (texts.flatMap encodeContent ++ encodeStatus s) := by
  refine ⟨fun hmark => ?_, [], ?_⟩
  · have hzero := hmark.subset (List.mem_cons_self (a := 0))
    rw [Utf8.ofString, String.toList_ofList, Utf8.encode, List.mem_flatMap] at hzero
    obtain ⟨c, hc, hbyte⟩ := hzero
    rw [Utf8.eq_nul_of_zero_mem hbyte, visible] at hc
    simp at hc
  · rw [ofString_visible, encodeStatus, List.append_nil, List.append_assoc]

/-- Whatever texts are sent and wherever their bytes are cut, the reader gets them without their NUL
characters, then the status, and nothing else. -/
theorem feed_encoded (texts : List String) (s : Status) (chunks : List Bytes)
    (h : chunks.flatten = texts.flatMap encodeContent ++ encodeStatus s) :
    ∃ (parts : List String) (d : Decoder),
      Decoder.feed {} chunks = (.ok (parts.map .text ++ [.status s]), d) ∧
      String.join parts = String.ofList (visible (String.join texts).toList) ∧
      d.stage = .done ∧ d.finish = .ok () := by
  have hframed := framed_encoded texts s
  rw [← h] at hframed
  have hfeed := feed_follows follows_nil chunks
  rw [List.nil_append] at hfeed
  rcases hd : Decoder.feed {} chunks with ⟨_ | frames, d⟩
  · rw [hd] at hfeed
    exact absurd ((List.append_nil chunks.flatten).symm ▸ hframed) (hfeed [] _ s)
  · rw [hd, Pushed, List.nil_append] at hfeed
    obtain ⟨rest, hsplit⟩ := framed_iff.1 hframed
    cases hfeed with
    | streaming hclear => simp [hsplit] at hclear
    | statusPending hpending hpart =>
      rw [hsplit, Option.some.injEq, Prod.mk.injEq] at hpending
      rw [← hpending.2, readStatus_token] at hpart
      simp at hpart
    | done hdone =>
      obtain ⟨hjoin, rfl⟩ := hdone.unique hframed
      exact ⟨_, _, rfl, hjoin, rfl, rfl⟩

/-- Two texts with NULs and a mark split between them, cut inside a character, the mark and the
status. -/
theorem feed_encoded_cut :
    [[0xc3], [0xa9, 10], [], [98, 10], [0], [10, 115, 117], [99, 99, 101, 115, 115]].flatten =
        ["é\x00\nb\x00", "\n"].flatMap encodeContent ++ encodeStatus .success ∧
      ∃ (parts : List String) (d : Decoder),
        Decoder.feed {} [[0xc3], [0xa9, 10], [], [98, 10], [0], [10, 115, 117],
            [99, 99, 101, 115, 115]] =
          (.ok (parts.map .text ++ [.status .success]), d) ∧
        String.join parts = String.ofList (visible (String.join ["é\x00\nb\x00", "\n"]).toList) ∧
        d.stage = .done ∧ d.finish = .ok () :=
  ⟨by decide, feed_encoded _ _ _ (by decide)⟩

end Parley.Reply
