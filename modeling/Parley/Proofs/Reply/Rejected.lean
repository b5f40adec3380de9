import Mathlib.Data.List.Induction
import Parley.Proofs.Reply.Bodies
import Parley.Proofs.Reply.Faults

/-!
# The text of bodies that are no replies

A body that is no reply brings some text and then a fault. `Sound` says of some bytes that nothing
is wrong with them so far, and `told` is the text that they are known to start with. What a reader
gets is told by the longest run of chunks that is sound. So text in front of a defect is given out
whole if a chunk ends in front of the defect (`text_before_fault`), and text in the same chunk as
the defect is lost.
-/

namespace Parley.Reply

open Text

/-- Nothing is wrong with some bytes so far: they start a text, or are a text, the mark and the
start of a status. -/
def Sound (bytes : Bytes) : Prop :=
  match splitSentinel bytes with
  | some (front, after) => (∃ cs, front = Utf8.encode cs) ∧ ∃ found, readStatus after = .ok found
  | none => Utf8.Promising (dropFinalNul bytes)

/-- The text that some bytes are known to start with: all characters in front of the mark or, as
long as there is none, the whole characters but for a NUL at the end. -/
def told (bytes : Bytes) : String :=
  match splitSentinel bytes with
  | some (front, _) => String.ofList (Utf8.validPrefix front).1
  | none => String.ofList (Utf8.validPrefix (dropFinalNul bytes)).1

/-- The texts among what was decoded, put together. -/
def textOf (items : List (Except ProtocolFault Frame)) : String :=
  String.join (items.filterMap fun
    | .ok (.text s) => some s
    | _ => none)

variable {bytes xs ys chunk : Bytes} {frames : List Frame} {d d' : Decoder} {e : ProtocolFault}

lemma sound_of_some {front after : Bytes} (h : splitSentinel bytes = some (front, after)) :
    Sound bytes ↔ (∃ cs, front = Utf8.encode cs) ∧ ∃ found, readStatus after = .ok found := by
  rw [Sound, h]

lemma sound_of_none (h : splitSentinel bytes = none) :
    Sound bytes ↔ Utf8.Promising (dropFinalNul bytes) := by
  rw [Sound, h]

lemma dropFinalNul_append_of_ne (xs : Bytes) (hys : ys ≠ []) :
    dropFinalNul (xs ++ ys) = xs ++ dropFinalNul ys := by
  have hlast : (xs ++ ys).getLast? = ys.getLast? := by
    rw [List.getLast?_append, List.getLast?_eq_some_getLast hys, Option.some_or]
  unfold dropFinalNul
  rw [hlast]
  split_ifs
  · exact List.dropLast_append_of_ne_nil hys
  · rfl

lemma promising_dropFinalNul_of {bs : Bytes} (h : Utf8.Promising bs) :
    Utf8.Promising (dropFinalNul bs) := by
  obtain ⟨nul, hnul, -⟩ := dropFinalNul_append bs
  rw [hnul] at h
  exact h.left

/-- What is in front of sound bytes' end is sound. -/
theorem Sound.left (h : Sound (xs ++ ys)) : Sound xs := by
  cases hxs : splitSentinel xs with
  | some cut =>
    obtain ⟨front, after⟩ := cut
    obtain ⟨hfront, found, hfound⟩ := (sound_of_some (splitSentinel_more hxs ys)).1 h
    refine (sound_of_some hxs).2 ⟨hfront, ?_⟩
    cases hafter : readStatus after with
    | ok found => exact ⟨found, rfl⟩
    | error e =>
      obtain ⟨e', he'⟩ := readStatus_error_append hafter ys
      cases he'.symm.trans hfound
  | none =>
    rw [sound_of_none hxs]
    cases hall : splitSentinel (xs ++ ys) with
    | none =>
      rw [sound_of_none hall] at h
      obtain rfl | hys := eq_or_ne ys []
      · rwa [List.append_nil] at h
      · rw [dropFinalNul_append_of_ne xs hys] at h
        exact promising_dropFinalNul_of h.left
    | some cut =>
      obtain ⟨front, after⟩ := cut
      obtain ⟨⟨cs, rfl⟩, -⟩ := (sound_of_some hall).1 h
      obtain ⟨rest, hrest⟩ := prefix_of_clear hxs (splitSentinel_eq_some_iff.1 hall).2
      have hpromising := Utf8.promising_encode (cs ++ ['\x00'])
      rw [← encode_nul, ← hrest] at hpromising
      exact promising_dropFinalNul_of hpromising.left

lemma sound_of_start (hys : Sound ys) (h : xs <+: ys) : Sound xs := by
  obtain ⟨rest, rfl⟩ := h
  exact hys.left

/-- A sound start of some bytes that no sound start of them exceeds. -/
structure Longest (front bytes : Bytes) : Prop where
  start : front <+: bytes
  sound : Sound front
  longest : ∀ xs, xs <+: bytes → Sound xs → xs <+: front

lemma sound_nil : Sound [] := ⟨[], [], rfl⟩

theorem exists_longest (bytes : Bytes) : ∃ front, Longest front bytes := by
  induction bytes using List.reverseRecOn with
  | nil => exact ⟨[], List.prefix_rfl, sound_nil, fun xs hxs _ => hxs⟩
  | append_singleton bytes b ih =>
    by_cases hall : Sound (bytes ++ [b])
    · exact ⟨_, List.prefix_rfl, hall, fun xs hxs _ => hxs⟩
    · obtain ⟨front, hstart, hsound, hlongest⟩ := ih
      refine ⟨front, hstart.trans (List.prefix_append _ _), hsound, fun xs hxs hsound' => ?_⟩
      obtain rfl | hxs := List.prefix_concat_iff.1 hxs
      · exact absurd hsound' hall
      · exact hlongest xs hxs hsound'

lemma textOf_append (items more : List (Except ProtocolFault Frame)) :
    textOf (items ++ more) = textOf items ++ textOf more := by
  rw [textOf, List.filterMap_append, String.join_append]
  rfl

lemma textOf_texts (texts : List String) :
    textOf ((texts.map Frame.text).map .ok) = String.join texts := by
  rw [textOf, List.map_map, List.filterMap_map]
  exact congrArg String.join (List.filterMap_some)

lemma textOf_error (items : List (Except ProtocolFault Frame)) (e : ProtocolFault) :
    textOf (items ++ [.error e]) = textOf items := by
  rw [textOf_append]
  exact String.append_empty

lemma validPrefix_encode (cs : List Char) : (Utf8.validPrefix (Utf8.encode cs)).1 = cs := by
  rw [(Utf8.validPrefix_eq_none_iff _ cs).2 rfl]

lemma dropFinalNul_concat (bs : Bytes) : dropFinalNul (bs ++ [0]) = bs := by
  rw [dropFinalNul, if_pos List.getLast?_concat, List.dropLast_concat]

lemma dropFinalNul_of_ne {bs : Bytes} (h : bs.getLast? ≠ some 0) : dropFinalNul bs = bs :=
  if_neg h

/-- A decoder has read sound bytes, and has given out the text that they tell. -/
theorem Follows.tells (h : Follows bytes frames d) :
    Sound bytes ∧ textOf (frames.map .ok) = told bytes := by
  cases h with
  | @streaming part nul texts hclear hbytes hpart hnul hedge =>
    have hdrop : dropFinalNul bytes = Utf8.encode (String.join texts).toList ++ part := by
      obtain rfl | rfl := hnul
      · rw [hbytes, ← List.append_assoc, dropFinalNul_concat, Utf8.ofString]
      · rw [dropFinalNul_of_ne (hedge rfl), hbytes, List.append_nil, Utf8.ofString]
    have hscan : Utf8.scan [] (dropFinalNul bytes) =
        ((String.join texts).toList.map .char, part) := by
      rw [hdrop, Utf8.scan_encode_append, hpart, List.append_nil]
    refine ⟨(sound_of_none hclear).2 ⟨_, _, hscan⟩, ?_⟩
    rw [textOf_texts, told, hclear]
    simp only [Utf8.validPrefix_chars hscan, String.ofList_toList]
  | @statusPending held texts hsplit hpart =>
    refine ⟨(sound_of_some hsplit).2 ⟨⟨_, rfl⟩, _, hpart⟩, ?_⟩
    rw [textOf_texts, told, hsplit]
    simp only [Utf8.ofString, validPrefix_encode, String.ofList_toList]
  | @done texts s hframed =>
    obtain ⟨rest, hsplit⟩ := framed_iff.1 hframed
    refine ⟨(sound_of_some hsplit).2 ⟨⟨_, rfl⟩, _, readStatus_token s rest⟩, ?_⟩
    rw [List.map_append, textOf_append, textOf_texts, told, hsplit]
    simp only [Utf8.ofString, validPrefix_encode, String.ofList_toList]
    exact String.append_empty

/-- A decoder reports a fault only of bytes that are not sound. -/
theorem Follows.not_sound (h : Follows bytes frames d) (hpush : d.push chunk = (.error e, d')) :
    ¬Sound (bytes ++ chunk) := by
  intro hsound
  cases h with
  | @streaming part nul texts hclear hbytes hpart hnul hedge =>
    have hmore : bytes ++ chunk =
        Utf8.ofString (String.join texts) ++ (part ++ nul ++ chunk) := by
      rw [hbytes, List.append_assoc]
    have hsplit := splitSentinel_held hclear hbytes hedge chunk
    simp only [Decoder.push] at hpush
    cases hcut : splitSentinel (part ++ nul ++ chunk) with
    | some cut =>
      obtain ⟨front, after⟩ := cut
      rw [hcut, Option.map_some] at hsplit
      obtain ⟨⟨cs, hcs⟩, found, hfound⟩ := (sound_of_some hsplit).1 hsound
      obtain ⟨es, rfl⟩ := Utf8.exists_encode_of_append hcs.symm
      simp only [hcut, Decoder.wholeText_encode] at hpush
      obtain ⟨hstatus, -⟩ := Decoder.awaitStatus_fault hpush
      cases hstatus.symm.trans hfound
    | none =>
      rw [hcut, Option.map_none] at hsplit
      have hpromising : Utf8.Promising (dropFinalNul (part ++ nul ++ chunk)) := by
        rw [sound_of_none hsplit, hmore] at hsound
        obtain hnil | hne := eq_or_ne (part ++ nul ++ chunk) []
        · rw [hnil]
          exact ⟨[], [], rfl⟩
        · rw [dropFinalNul_append_of_ne _ hne] at hsound
          exact Utf8.promising_of_encode_append hsound
      obtain ⟨cs, held, hscan⟩ := hpromising
      simp only [hcut, takeText_chars hscan] at hpush
      cases hpush
  | @statusPending held texts hsplit hpart =>
    obtain ⟨-, found, hfound⟩ := (sound_of_some (splitSentinel_more hsplit chunk)).1 hsound
    obtain ⟨hstatus, -⟩ := Decoder.awaitStatus_fault hpush
    cases hstatus.symm.trans hfound
  | done => cases hpush

/-- Some bytes are those of the first chunks of a body. -/
def CutsAt (chunks : List Bytes) (bytes : Bytes) : Prop :=
  ∃ front, front <+: chunks ∧ front.flatten = bytes

lemma Follows.framed (h : Follows bytes frames d) (hd : d.stage = .done) :
    ∃ text s, Framed text s bytes := by
  cases h with
  | done hframed => exact ⟨_, _, hframed⟩
  | streaming => cases hd
  | statusPending => cases hd

lemma Follows.stops (h : Follows bytes frames d) (e : ProtocolFault) :
    Sound (bytes ++ [].flatten) ∧
      textOf (frames.map .ok ++ [.error e]) = told (bytes ++ [].flatten) := by
  rw [List.flatten_nil, List.append_nil, textOf_error]
  exact h.tells

/-- What is decoded of a body that is no reply is told by the chunks in front of the one that makes
it unsound. -/
theorem decodeFrom_told (h : Follows bytes frames d) (hd : d.stage ≠ .done) (chunks : List Bytes)
    (hnone : ∀ text s, ¬Framed text s (bytes ++ chunks.flatten)) :
    ∃ front rest, chunks = front ++ rest ∧ Sound (bytes ++ front.flatten) ∧
      (∀ chunk more, rest = chunk :: more → ¬Sound (bytes ++ (front ++ [chunk]).flatten)) ∧
      textOf (frames.map .ok ++ decodeFrom d (chunks.map .ok)) = told (bytes ++ front.flatten) := by
  induction chunks generalizing bytes frames d with
  | nil =>
    obtain ⟨e, he⟩ := finish_error hd
    obtain ⟨hsound, htold⟩ := h.stops e
    refine ⟨[], [], rfl, hsound, nofun, ?_⟩
    rw [List.map_nil, decodeFrom, he, htold]
  | cons chunk chunks ih =>
    have hpush := push_follows h chunk
    rw [List.map_cons, decodeFrom]
    rcases hp : d.push chunk with ⟨e | new, d'⟩ <;> rw [hp] at hpush
    · obtain ⟨hsound, htold⟩ := h.stops e
      refine ⟨[], chunk :: chunks, rfl, hsound, ?_, htold⟩
      rintro _ _ ⟨⟩
      simpa using h.not_sound hp
    · rw [List.flatten_cons, ← List.append_assoc] at hnone
      have hd' : d'.stage ≠ .done := by
        intro hdone
        obtain ⟨text, s, hframed⟩ := Follows.framed hpush hdone
        exact hnone text s (hframed.append chunks.flatten)
      obtain ⟨front, rest, rfl, hsound, hrest, htold⟩ := ih hpush hd' hnone
      refine ⟨chunk :: front, rest, rfl, ?_, ?_, ?_⟩
      · rwa [List.flatten_cons, ← List.append_assoc]
      · intro next more hnext
        rw [List.cons_append, List.flatten_cons, ← List.append_assoc]
        exact hrest next more hnext
      · have hbytes : bytes ++ (chunk :: front).flatten = bytes ++ chunk ++ front.flatten := by
          rw [List.flatten_cons, List.append_assoc]
        rw [hbytes, ← htold]
        simp only [if_neg hd', List.map_append, List.append_assoc]

lemma flatten_start {front chunks : List Bytes} (h : front <+: chunks) :
    front.flatten <+: chunks.flatten := by
  obtain ⟨rest, rfl⟩ := h
  rw [List.flatten_append]
  exact List.prefix_append _ _

/-- What a reader gets of a body that is no reply is told by the longest run of chunks that is
sound. -/
theorem decode_told (chunks : List Bytes) (hnone : ∀ text s, ¬Framed text s chunks.flatten) :
    ∃ read, CutsAt chunks read ∧ Sound read ∧
      (∀ more, CutsAt chunks more → Sound more → more <+: read) ∧
      textOf (decode (chunks.map .ok)) = told read := by
  obtain ⟨front, rest, rfl, hsound, hrest, htold⟩ :=
    decodeFrom_told follows_nil (by decide) chunks hnone
  refine ⟨front.flatten, ⟨front, List.prefix_append _ _, rfl⟩, hsound, ?_, htold⟩
  rintro _ ⟨longer, hlonger, rfl⟩ hmore
  rcases List.prefix_or_prefix_of_prefix hlonger (List.prefix_append front rest) with hp | hp
  · exact flatten_start hp
  · obtain ⟨_ | ⟨chunk, tail⟩, rfl⟩ := hp
    · exact (List.append_nil front).symm ▸ List.prefix_rfl
    · -- One chunk more is not sound any longer, and nor is what begins with it.
      rw [List.prefix_append_right_inj] at hlonger
      obtain ⟨later, rfl⟩ := hlonger
      have hchunk : (front ++ [chunk]).flatten <+: (front ++ chunk :: tail).flatten :=
        flatten_start ⟨tail, by rw [List.append_assoc, List.singleton_append]⟩
      exact absurd (sound_of_start hmore hchunk) (hrest chunk _ rfl)

lemma not_framed_of_error (hmem : .error e ∈ decode [.ok bytes]) (text : String) (s : Status) :
    ¬Framed text s bytes := by
  intro hframed
  have hreceived : Framed text s (received [.ok bytes]) := by
    rwa [received, received, List.append_nil]
  obtain ⟨texts, -, hdecode⟩ := decode_of_framed hreceived
  rw [hdecode] at hmem
  simp at hmem

lemma Longest.eq {front read : Bytes} (h : Longest front bytes) (hread : read <+: bytes)
    (hsound : Sound read) (hmore : front <+: read) : read = front :=
  (h.longest read hread hsound).eq_of_length_le hmore.length_le

/-- A decoder has no fault to report of sound bytes. -/
lemma Follows.push_ok (h : Follows bytes frames d) (hsound : Sound (bytes ++ chunk)) :
    ∃ new d', Follows (bytes ++ chunk) (frames ++ new) d' := by
  have hpush := push_follows h chunk
  rcases hp : d.push chunk with ⟨e | new, d'⟩ <;> rw [hp] at hpush
  · exact absurd hsound (h.not_sound hp)
  · exact ⟨new, d', hpush⟩

/-- Sound bytes tell more than their start, and nothing else. -/
theorem told_append (h : Sound (xs ++ ys)) : ∃ s, told (xs ++ ys) = told xs ++ s := by
  have hstart : ∃ frames d, Follows xs frames d := follows_nil.push_ok h.left
  obtain ⟨frames, d, hxs⟩ := hstart
  obtain ⟨new, d', hall⟩ := hxs.push_ok h
  refine ⟨textOf (new.map .ok), ?_⟩
  rw [← hall.tells.2, ← hxs.tells.2, List.map_append, textOf_append]

/-- Of a body that is no reply a reader gets what is told by the longest run of chunks that is
sound. This is the start of what is told by the longest sound start of the body, and all of it if a
chunk ends there. -/
theorem text_before_fault (hrej : ∃ e, .error e ∈ decode [.ok bytes]) :
    ∃ front, Longest front bytes ∧ (Sound bytes → front = bytes) ∧
      ∀ chunks, chunks.flatten = bytes →
        (∃ read, CutsAt chunks read ∧ Sound read ∧
          (∀ more, CutsAt chunks more → Sound more → more <+: read) ∧
          textOf (decode (chunks.map .ok)) = told read) ∧
        (∃ lost, told front = textOf (decode (chunks.map .ok)) ++ lost) ∧
        (CutsAt chunks front → textOf (decode (chunks.map .ok)) = told front) := by
  obtain ⟨e, hmem⟩ := hrej
  obtain ⟨front, hfront⟩ := exists_longest bytes
  refine ⟨front, hfront, fun hsound => (hfront.eq List.prefix_rfl hsound hfront.start).symm, ?_⟩
  intro chunks hchunks
  obtain ⟨read, hcut, hsound, hlongest, htext⟩ :=
    decode_told chunks (hchunks ▸ not_framed_of_error hmem)
  have hread : read <+: bytes := by
    obtain ⟨run, hrun, rfl⟩ := hcut
    exact hchunks ▸ flatten_start hrun
  refine ⟨⟨read, hcut, hsound, hlongest, htext⟩, ?_, fun hfrontcut => ?_⟩
  · obtain ⟨rest, rfl⟩ := hfront.longest read hread hsound
    rw [htext]
    exact told_append hfront.sound
  · rw [htext, hfront.eq hread hsound (hlongest front hfrontcut hfront.sound)]

/-- With "Hi" and the mark in chunks of their own, "Hi" is given out before the fault, which is in
"ok". -/
theorem text_before_fault_hi :
    (∃ e, .error e ∈ decode [.ok [72, 105, 0, 10, 111, 107]]) ∧
    textOf (decode ([[72, 105], [0, 10], [111, 107]].map .ok)) = told [72, 105, 0, 10] ∧
    told [72, 105, 0, 10] = "Hi" := by
  have hrej : ∃ e, .error e ∈ decode [.ok [72, 105, 0, 10, 111, 107]] :=
    ⟨_, List.mem_singleton_self _⟩
  refine ⟨hrej, ?_, rfl⟩
  obtain ⟨front, hfront, -, htext⟩ := text_before_fault hrej
  have hmark : splitSentinel [72, 105, 0, 10] = some ([72, 105], []) := rfl
  have hsound : Sound [72, 105, 0, 10] :=
    (sound_of_some hmark).2 ⟨⟨['H', 'i'], rfl⟩, none, rfl⟩
  have hstop : ¬Sound [72, 105, 0, 10, 111] := by
    intro hsound
    obtain ⟨-, found, hfound⟩ := (sound_of_some (splitSentinel_more hmark [111])).1 hsound
    cases hfound
  obtain ⟨more, rfl⟩ := hfront.longest _ ⟨[111, 107], rfl⟩ hsound
  have hmore : more <+: [111, 107] := (List.prefix_append_right_inj [72, 105, 0, 10]).1 hfront.start
  obtain rfl | ⟨tail, rfl, -⟩ := List.prefix_cons_iff.1 hmore
  · exact (htext _ rfl).2.2 ⟨[[72, 105], [0, 10]], ⟨[[111, 107]], rfl⟩, rfl⟩
  · exact absurd (sound_of_start hfront.sound ⟨tail, rfl⟩) hstop

/-- How a body that is no reply is cut makes a difference: "Hi" is lost if what is no status comes
in the same chunk. -/
theorem text_before_fault_lost :
    ¬∀ (bytes : Bytes) (chunks chunks' : List Bytes), (∃ e, .error e ∈ decode [.ok bytes]) →
      chunks.flatten = bytes → chunks'.flatten = bytes →
      textOf (decode (chunks.map .ok)) = textOf (decode (chunks'.map .ok)) := by
  intro h
  have hsame := h [72, 105, 0, 10, 111, 107] [[72, 105], [0, 10, 111, 107]]
    [[72, 105, 0, 10, 111, 107]] ⟨_, List.mem_singleton_self _⟩ rfl rfl
  exact absurd hsame (by decide)

end Parley.Reply
