import Parley.Proofs.Reply.Decoding

/-!
# Faults of a reply

A decoder takes chunks after a fault as well. Nothing but faults comes of them (`Decoder.Failed`),
with one exception: where the bytes in front of the mark stop inside a character, the mark and all
that follows it are dropped, but the bytes in front are kept, and more bytes may complete the
character (`Decoder.revived`). NULs at the end of what is kept make no difference, since each goes
with the next line feed.
-/

namespace Parley.Reply

open Text

/-- Bytes that a text may start with, NULs at their end aside. -/
def Resumable (bs : Bytes) : Prop :=
  ∃ front k, bs = front ++ List.replicate k 0 ∧ Utf8.Promising front

lemma Resumable.left {xs ys : Bytes} (h : Resumable (xs ++ ys)) : Resumable xs := by
  obtain ⟨front, k, hbytes, hfront⟩ := h
  rcases List.prefix_or_prefix_of_prefix (List.prefix_append xs ys)
    (hbytes ▸ List.prefix_append front _) with ⟨rest, rfl⟩ | ⟨tail, rfl⟩
  · exact ⟨xs, 0, (List.append_nil xs).symm, hfront.left⟩
  · rw [List.append_assoc, List.append_cancel_left_eq] at hbytes
    obtain ⟨-, htail, -⟩ := List.append_eq_replicate_iff.1 hbytes
    exact ⟨front, tail.length, by rw [← htail], hfront⟩

lemma Resumable.nul {bs : Bytes} (h : Resumable bs) : Resumable (bs ++ [0]) := by
  obtain ⟨front, k, rfl, hfront⟩ := h
  exact ⟨front, k + 1, by rw [List.append_assoc, ← List.replicate_succ'], hfront⟩

lemma resumable_of_promising {bs : Bytes} (h : Utf8.Promising bs) : Resumable bs :=
  ⟨bs, 0, (List.append_nil bs).symm, h⟩

lemma resumable_of_dropFinalNul {bs : Bytes} (h : Utf8.Promising (dropFinalNul bs)) :
    Resumable bs := by
  obtain ⟨nul, hnul, rfl | ⟨rfl, -⟩⟩ := dropFinalNul_append bs
  · exact ⟨dropFinalNul bs, 1, hnul, h⟩
  · exact ⟨dropFinalNul bs, 0, hnul, h⟩

lemma encode_nul (cs : List Char) : Utf8.encode cs ++ [0] = Utf8.encode (cs ++ ['\x00']) := by
  simp [Utf8.encode]
  rfl

lemma splitSentinel_left {xs ys : Bytes} (h : splitSentinel (xs ++ ys) = none) :
    splitSentinel xs = none := by
  rw [splitSentinel_eq_none_iff] at h ⊢
  exact fun hmark => h (hmark.trans (List.prefix_append xs ys).isInfix)

namespace Decoder

/-- Pushes chunks one after the other, whatever comes of them. -/
def pushAll (d : Decoder) : List Bytes → List (Except ProtocolFault (List Frame)) × Decoder
  | [] => ([], d)
  | chunk :: rest =>
    let (told, d) := d.push chunk
    let (more, d) := d.pushAll rest
    (told :: more, d)

/-- Whatever is pushed, only faults come of it, and there is no status in the end. -/
def Failed (d : Decoder) : Prop :=
  ∀ later, (∀ told ∈ (d.pushAll later).1, ∃ e, told = .error e) ∧
    (d.pushAll later).2.stage ≠ .done ∧ ∃ e, (d.pushAll later).2.finish = .error e

/-- A decoder that holds bytes which nothing can follow. -/
inductive Spoiled : Decoder → Prop
  | streaming {held : Bytes} (hclear : splitSentinel held = none) (hheld : ¬Resumable held) :
    Spoiled ⟨.streaming, held⟩
  | statusPending {held : Bytes} {e : ProtocolFault} (hheld : readStatus held = .error e) :
    Spoiled ⟨.statusPending, held⟩

variable {d d' : Decoder} {chunk held : Bytes} {e : ProtocolFault}

lemma awaitStatus_error {frames : List Frame} {bs : Bytes} (h : readStatus bs = .error e) :
    awaitStatus frames bs = (.error e, ⟨.statusPending, bs⟩) := by
  rw [awaitStatus, h]

/-- A chunk brings a spoiled decoder nothing but one more fault. -/
lemma Spoiled.push (h : Spoiled d) (chunk : Bytes) :
    ∃ e d', d.push chunk = (.error e, d') ∧ Spoiled d' := by
  cases h with
  | @statusPending held e hheld =>
    obtain ⟨e', he'⟩ := readStatus_error_append hheld chunk
    exact ⟨e', _, awaitStatus_error he', .statusPending he'⟩
  | @streaming held hclear hheld =>
    simp only [Decoder.push]
    cases hcut : splitSentinel (held ++ chunk) with
    | some cut =>
      obtain ⟨front, after⟩ := cut
      obtain ⟨hfront, hbytes⟩ := splitSentinel_eq_some_iff.1 hcut
      have hstuck : ¬Resumable front := by
        intro hfront
        obtain ⟨rest, hrest⟩ := prefix_of_clear hclear hbytes
        exact hheld (hrest.symm ▸ hfront.nul).left
      rcases wholeText_eq front with ⟨cs, rfl, -⟩ | ⟨-, e, hw⟩
      · exact absurd (resumable_of_promising (Utf8.promising_encode cs)) hstuck
      · simp only [hw]
        exact ⟨e, _, rfl, .streaming hfront hstuck⟩
    | none =>
      have hstuck : ¬Resumable (held ++ chunk) := fun hmore => hheld hmore.left
      obtain ⟨e, he⟩ := takeText_malformed fun hp => hstuck (resumable_of_dropFinalNul hp)
      simp only [he]
      exact ⟨e, _, rfl, .streaming hcut hstuck⟩

lemma Spoiled.stage_ne (h : Spoiled d) : d.stage ≠ .done := by
  cases h <;> exact Stage.noConfusion

lemma Spoiled.finish (h : Spoiled d) : ∃ e, d.finish = .error e := by
  cases h <;> exact ⟨_, rfl⟩

theorem Spoiled.failed (h : Spoiled d) : d.Failed := by
  intro later
  induction later generalizing d with
  | nil => exact ⟨List.forall_mem_nil _, h.stage_ne, h.finish⟩
  | cons chunk later ih =>
    obtain ⟨e, d', hpush, hspoiled⟩ := h.push chunk
    obtain ⟨htold, hend⟩ := ih hspoiled
    simp only [pushAll, hpush]
    exact ⟨List.forall_mem_cons.2 ⟨⟨e, rfl⟩, htold⟩, hend⟩

lemma awaitStatus_fault {frames : List Frame} {bs : Bytes}
    (h : awaitStatus frames bs = (.error e, d)) :
    readStatus bs = .error e ∧ d = ⟨.statusPending, bs⟩ := by
  unfold awaitStatus at h
  split at h
  · cases h
  · cases h
  · next hs =>
    cases h
    exact ⟨hs, rfl⟩

/-- A fault leaves a decoder with a bad status, or with bytes in front of the mark that are no text.
-/
lemma push_error (h : d.push chunk = (.error e, d')) : Spoiled d' ∨
    ∃ held, d' = ⟨.streaming, held⟩ ∧ splitSentinel held = none ∧ Resumable held ∧
      ¬∃ cs, held = Utf8.encode cs := by
  suffices hheld : (∃ held, d' = ⟨.statusPending, held⟩ ∧ readStatus held = .error e) ∨
      ∃ held, d' = ⟨.streaming, held⟩ ∧ splitSentinel held = none ∧
        ¬∃ cs, held = Utf8.encode cs by
    obtain ⟨held, rfl, hstatus⟩ | ⟨held, rfl, hclear, hnot⟩ := hheld
    · exact .inl (.statusPending hstatus)
    · by_cases hresume : Resumable held
      · exact .inr ⟨held, rfl, hclear, hresume, hnot⟩
      · exact .inl (.streaming hclear hresume)
  unfold Decoder.push at h
  cases hstage : d.stage with
  | done =>
    simp only [hstage] at h
    cases h
  | statusPending =>
    simp only [hstage] at h
    obtain ⟨hstatus, rfl⟩ := awaitStatus_fault h
    exact .inl ⟨_, rfl, hstatus⟩
  | streaming =>
    simp only [hstage] at h
    cases hcut : splitSentinel (d.pending ++ chunk) with
    | some cut =>
      obtain ⟨front, after⟩ := cut
      simp only [hcut] at h
      rcases wholeText_eq front with ⟨cs, -, hw⟩ | ⟨hnot, e', hw⟩
      · simp only [hw] at h
        obtain ⟨hstatus, rfl⟩ := awaitStatus_fault h
        exact .inl ⟨_, rfl, hstatus⟩
      · simp only [hw] at h
        obtain ⟨-, rfl⟩ := Prod.mk.inj h
        exact .inr ⟨front, rfl, (splitSentinel_eq_some_iff.1 hcut).1, hnot⟩
    | none =>
      simp only [hcut] at h
      by_cases hp : Utf8.Promising (dropFinalNul (d.pending ++ chunk))
      · obtain ⟨cs, held, hscan⟩ := hp
        rw [takeText_chars hscan] at h
        cases h
      · obtain ⟨e', he'⟩ := takeText_malformed hp
        simp only [he'] at h
        obtain ⟨-, rfl⟩ := Prod.mk.inj h
        refine .inr ⟨_, rfl, hcut, ?_⟩
        rintro ⟨cs, hcs⟩
        obtain ⟨nul, hnul, -⟩ := dropFinalNul_append (d.pending ++ chunk)
        have hwhole := Utf8.promising_encode cs
        rw [← hcs, hnul] at hwhole
        exact hp hwhole.left

lemma splitSentinel_encodeChar {c : Char} (hc : 0 ∉ Utf8.encodeChar c) (after : Bytes) :
    splitSentinel (Utf8.encodeChar c ++ (sentinel ++ after)) =
      some (Utf8.encodeChar c, after) := by
  rw [← List.append_assoc, splitSentinel_eq_some_iff, splitSentinel_eq_none_iff]
  exact ⟨fun hmark => hc (hmark.subset List.mem_cons_self), rfl⟩

lemma zero_notMem_of_begun {part more : Bytes} {c : Char} (hpart : Utf8.form part = .unfinished)
    (hne : part ≠ []) (hc : part ++ more = Utf8.encodeChar c) : 0 ∉ Utf8.encodeChar c := by
  intro hzero
  obtain rfl := Utf8.eq_nul_of_zero_mem hzero
  have hnul : Utf8.encodeChar '\x00' = [0] := by decide
  rw [hnul, List.append_eq_singleton_iff] at hc
  obtain ⟨rfl, -⟩ | ⟨rfl, -⟩ := hc
  · exact hne rfl
  · exact absurd hpart (by decide)

lemma wholeText_encode (cs : List Char) : wholeText (Utf8.encode cs) = .ok cs := by
  rw [wholeText, (Utf8.validPrefix_eq_none_iff _ cs).2 rfl]

/-- With the rest of the character, the mark and a status, a decoder is done after all. -/
lemma push_completion {cs : List Char} {part : Bytes}
    (hclear : splitSentinel (Utf8.encode cs ++ part) = none)
    (hpart : Utf8.form part = .unfinished) (hne : part ≠ []) :
    ∃ chunk text, Decoder.push ⟨.streaming, Utf8.encode cs ++ part⟩ chunk =
      (.ok [.text text, .status .success], ⟨.done, []⟩) := by
  obtain ⟨more, c, hc⟩ := Utf8.exists_completion hpart hne
  have hcut := @splitSentinel_append _ _ (more ++ (sentinel ++ Status.success.token)) hclear
    fun hnil => absurd hnil hne
  rw [← List.append_assoc part, hc, splitSentinel_encodeChar (zero_notMem_of_begun hpart hne hc),
    Option.map_some] at hcut
  have hfront : Utf8.encode cs ++ Utf8.encodeChar c = Utf8.encode (cs ++ [c]) := by
    simp [Utf8.encode]
  have hstatus := readStatus_token .success []
  rw [List.append_nil] at hstatus
  refine ⟨more ++ (sentinel ++ Status.success.token), String.ofList (cs ++ [c]), ?_⟩
  simp only [Decoder.push, List.append_assoc]
  rw [← List.append_assoc part, hc, hcut]
  simp only [hfront, wholeText_encode, awaitStatus, hstatus]
  simp [frameOf]

/-- A line feed takes a NUL at the end for the mark, so that one NUL less is held. -/
lemma push_lineFeed {held : Bytes} (hclear : splitSentinel held = none)
    (hnot : ¬∃ cs, held = Utf8.encode cs) :
    ∃ e, Decoder.push ⟨.streaming, held ++ [0]⟩ [10] = (.error e, ⟨.streaming, held⟩) := by
  have hcut : splitSentinel (held ++ [0] ++ [10]) = some (held, []) :=
    splitSentinel_eq_some_iff.2 ⟨hclear, by simp [sentinel]⟩
  rcases wholeText_eq held with ⟨cs, hcs, -⟩ | ⟨-, e, hw⟩
  · exact absurd ⟨cs, hcs⟩ hnot
  · refine ⟨e, ?_⟩
    simp only [Decoder.push, hcut, hw]

/-- Bytes in front of the mark that stop inside a character are no end: what follows may bring text
and a status. -/
theorem revived {held : Bytes} (hclear : splitSentinel held = none) (hresume : Resumable held)
    (hnot : ¬∃ cs, held = Utf8.encode cs) : ∃ later text,
      .ok [.text text, .status .success] ∈ (pushAll ⟨.streaming, held⟩ later).1 ∧
      (pushAll ⟨.streaming, held⟩ later).2.stage = .done := by
  obtain ⟨front, k, rfl, hfront⟩ := hresume
  induction k with
  | zero =>
    obtain ⟨cs, part, hscan⟩ := hfront
    have hbytes := Utf8.eq_encode_append hscan
    have hpart : Utf8.form part = .unfinished := by
      have hheld := Utf8.form_scan_nil front
      rwa [hscan] at hheld
    rw [List.replicate_zero, List.append_nil, hbytes] at hclear hnot ⊢
    have hne : part ≠ [] := by
      rintro rfl
      exact hnot ⟨cs, List.append_nil _⟩
    obtain ⟨chunk, text, hpush⟩ := push_completion hclear hpart hne
    refine ⟨[chunk], text, ?_⟩
    rw [pushAll, hpush]
    exact ⟨List.mem_singleton_self _, rfl⟩
  | succ k ih =>
    rw [List.replicate_succ', ← List.append_assoc] at hclear hnot ⊢
    have hnot' : ¬∃ cs, front ++ List.replicate k 0 = Utf8.encode cs := by
      rintro ⟨cs, hcs⟩
      exact hnot ⟨cs ++ ['\x00'], by rw [hcs, encode_nul]⟩
    obtain ⟨e, hpush⟩ := push_lineFeed (splitSentinel_left hclear) hnot'
    obtain ⟨later, text, hmem, hdone⟩ := ih (splitSentinel_left hclear) hnot'
    refine ⟨[10] :: later, text, ?_⟩
    simp only [pushAll, hpush]
    exact ⟨List.mem_cons_of_mem _ hmem, hdone⟩

/-- Where a decoder that still looks for the mark holds bytes that a text may start with, NULs at
their end aside. -/
def Torn (d : Decoder) : Prop := d.stage = .streaming ∧ Resumable d.pending

lemma Spoiled.not_torn (h : Spoiled d) : ¬d.Torn := by
  cases h with
  | streaming _ hheld => exact fun htorn => hheld htorn.2
  | statusPending => exact fun htorn => Stage.noConfusion htorn.1

/-- Once a decoder has reported a fault, every later push brings a fault and no status is ever
reached, unless the bytes that it holds stop inside a character, NULs at their end aside. If they
do, some later push brings text and a status. -/
theorem fault_final (h : d.push chunk = (.error e, d')) :
    (¬d'.Torn → d'.Failed) ∧
    (d'.Torn → ∃ later text, .ok [.text text, .status .success] ∈ (d'.pushAll later).1 ∧
      (d'.pushAll later).2.finish = .ok ()) := by
  obtain hspoiled | ⟨held, rfl, hclear, hresume, hnot⟩ := push_error h
  · exact ⟨fun _ => hspoiled.failed, fun htorn => absurd htorn hspoiled.not_torn⟩
  · refine ⟨fun htorn => absurd ⟨rfl, hresume⟩ htorn, fun _ => ?_⟩
    obtain ⟨later, text, hmem, hdone⟩ := revived hclear hresume hnot
    exact ⟨later, text, hmem, by rw [Decoder.finish, hdone]⟩

/-- What is no status stays a fault. What stops inside a character does not: the mark behind it is
forgotten. -/
theorem fault_final_both :
    (∃ e, Decoder.push {} [72, 105, 0, 10, 111, 107] = (.error e, ⟨.statusPending, [111, 107]⟩) ∧
      Failed ⟨.statusPending, [111, 107]⟩) ∧
    ∃ e, Decoder.push {} [72, 105, 0xc3, 0, 10] = (.error e, ⟨.streaming, [72, 105, 0xc3]⟩) ∧
      ∃ later text, .ok [.text text, .status .success] ∈
        (pushAll ⟨.streaming, [72, 105, 0xc3]⟩ later).1 := by
  constructor
  · have hpush : ∃ e, Decoder.push {} [72, 105, 0, 10, 111, 107] =
        (.error e, ⟨.statusPending, [111, 107]⟩) := ⟨_, rfl⟩
    obtain ⟨e, he⟩ := hpush
    exact ⟨e, he, (fault_final he).1 fun htorn => Stage.noConfusion htorn.1⟩
  · have hpush : ∃ e, Decoder.push {} [72, 105, 0xc3, 0, 10] =
        (.error e, ⟨.streaming, [72, 105, 0xc3]⟩) := ⟨_, rfl⟩
    obtain ⟨e, he⟩ := hpush
    have htorn : Torn ⟨.streaming, [72, 105, 0xc3]⟩ :=
      ⟨rfl, resumable_of_promising ⟨['H', 'i'], [0xc3], rfl⟩⟩
    obtain ⟨later, text, hmem, -⟩ := (fault_final he).2 htorn
    exact ⟨e, he, later, text, hmem⟩

/-- A fault need not be final: the first half of a letter in front of the mark is a fault, and with
the second half in the next chunk the letter is given out all the same. -/
theorem fault_not_final :
    ¬∀ (front : List Bytes) (chunk : Bytes) (e : ProtocolFault) (d : Decoder),
      Decoder.push (pushAll {} front).2 chunk = (.error e, d) → d.Failed := by
  intro h
  have hfailed := h [] [0xc3, 0, 10] _ ⟨.streaming, [0xc3]⟩ rfl
  obtain ⟨hfaults, -⟩ := hfailed [[0xa9, 0, 10] ++ Status.success.token]
  obtain ⟨e, he⟩ := hfaults (.ok [.text "é", .status .success]) List.mem_cons_self
  cases he

end Decoder

end Parley.Reply
