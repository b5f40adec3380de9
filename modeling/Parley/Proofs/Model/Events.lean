import Mathlib.Data.List.Chain
import Parley.Model.Event
import Parley.Proofs.Text.Utf8

/-!
# Events of a body in chunks

`Splits` says how a text is split behind its blank lines, and there is only one way
(`splits_iff`). `Follows` relates a buffer to all the bytes it has taken and all the events it has
given out. So the events of a body are those of its text, wherever its bytes are cut
(`reported_splits`).
-/

namespace Parley.EventBuffer

open Text

/-- Two line ends, one right after the other. -/
def blankLine : List Char := ['\n', '\n']

/-- A text that ends with its first blank line. -/
def EndsBlank (event : List Char) : Prop :=
  ∃ front, event = front ++ blankLine ∧ ¬blankLine <:+: front ++ ['\n']

/-- A text is split behind its blank lines, and there is none in what is left. -/
structure Splits (text : List Char) (events : List (List Char)) (rest : List Char) : Prop where
  text_eq : text = events.flatten ++ rest
  events : ∀ e ∈ events, EndsBlank e
  rest : ¬blankLine <:+: rest

variable {cs ds text event rest more : List Char} {events events' : List (List Char)} {c : Char}

lemma cut_cons (h : ¬blankLine <+: c :: cs) :
    cut (c :: cs) = (cut cs).map fun (event, rest) => (c :: event, rest) := by
  rw [cut]
  rintro rest rfl rfl
  exact h ⟨rest, rfl⟩

lemma cut_eq_none_iff : cut cs = none ↔ ¬blankLine <:+: cs := by
  induction cs with
  | nil => simp [cut, blankLine]
  | cons c cs ih =>
    rw [List.infix_cons_iff, not_or]
    by_cases h : blankLine <+: c :: cs
    · obtain ⟨rest, hrest⟩ := h
      obtain ⟨rfl, rfl⟩ := List.cons.inj hrest
      simp [cut, blankLine]
    · rw [cut_cons h, Option.map_eq_none_iff, ih]
      exact (and_iff_right h).symm

/-- A character in front of an event belongs to it, unless a blank line starts there. -/
lemma endsBlank_cons_iff (h : ¬blankLine <+: c :: event) :
    EndsBlank (c :: event) ↔ EndsBlank event := by
  constructor
  · rintro ⟨_ | ⟨_, front⟩, hevent, hfirst⟩
    · exact absurd ⟨[], hevent.symm⟩ h
    · obtain ⟨rfl, rfl⟩ := List.cons.inj hevent
      exact ⟨front, rfl, fun hblank => hfirst (hblank.trans (List.suffix_cons _ _).isInfix)⟩
  · rintro ⟨front, rfl, hfirst⟩
    refine ⟨c :: front, rfl, fun hblank => ?_⟩
    obtain hstart | hlater := List.infix_cons_iff.1 hblank
    · exact h (hstart.trans ⟨['\n'], by simp [blankLine]⟩)
    · exact hfirst hlater

/-- A text that starts with a blank line ends with it if it is an event. -/
lemma EndsBlank.eq_blankLine (h : EndsBlank event) (hstart : blankLine <+: event ++ rest) :
    event = blankLine := by
  obtain ⟨front, rfl, hfirst⟩ := h
  obtain _ | ⟨a, _ | ⟨b, front⟩⟩ := front
  · rfl
  · obtain ⟨tail, htail⟩ := hstart
    obtain ⟨rfl, -⟩ := List.cons.inj htail
    exact absurd List.infix_rfl hfirst
  · obtain ⟨tail, htail⟩ := hstart
    obtain ⟨rfl, hnext⟩ := List.cons.inj htail
    obtain ⟨rfl, -⟩ := List.cons.inj hnext
    exact absurd ⟨[], front ++ ['\n'], rfl⟩ hfirst

lemma cut_eq_some_iff : cut cs = some (event, rest) ↔ cs = event ++ rest ∧ EndsBlank event := by
  induction cs generalizing event with
  | nil =>
    refine ⟨nofun, ?_⟩
    rintro ⟨hnil, front, rfl, -⟩
    simp [blankLine] at hnil
  | cons c cs ih =>
    by_cases h : blankLine <+: c :: cs
    · constructor
      · obtain ⟨more, hmore⟩ := h
        obtain ⟨rfl, rfl⟩ := List.cons.inj hmore
        rintro ⟨⟩
        exact ⟨rfl, [], rfl, by decide⟩
      · rintro ⟨hcs, hevent⟩
        rw [hcs] at h ⊢
        rw [hevent.eq_blankLine h]
        rfl
    · rw [cut_cons h, Option.map_eq_some_iff]
      constructor
      · rintro ⟨⟨e, _⟩, hcut, ⟨⟩⟩
        obtain ⟨rfl, he⟩ := ih.1 hcut
        refine ⟨rfl, (endsBlank_cons_iff fun hstart => h ?_).2 he⟩
        exact hstart.trans (List.prefix_append (c :: e) rest)
      · rintro ⟨hcs, hevent⟩
        obtain _ | ⟨_, e⟩ := event
        · obtain ⟨front, hnil, -⟩ := hevent
          simp [blankLine] at hnil
        · obtain ⟨rfl, rfl⟩ := List.cons.inj hcs
          refine ⟨(e, rest), ih.2 ⟨rfl, (endsBlank_cons_iff fun hstart => h ?_).1 hevent⟩, rfl⟩
          exact hstart.trans (List.prefix_append (_ :: e) rest)

lemma split_of_none (h : cut cs = none) : split cs = ([], cs) := by
  rw [split]
  split
  · rfl
  · next hcut => cases h.symm.trans hcut

lemma split_of_some (h : cut cs = some (event, rest)) :
    split cs = (event :: (split rest).1, (split rest).2) := by
  rw [split]
  split
  · next hcut => cases h.symm.trans hcut
  · next hcut =>
    cases h.symm.trans hcut
    rfl

/-- Events in front of a text are split off it. -/
lemma split_flatten (hevents : ∀ e ∈ events, EndsBlank e) :
    split (events.flatten ++ rest) = (events ++ (split rest).1, (split rest).2) := by
  induction events with
  | nil => rfl
  | cons e events ih =>
    obtain ⟨he, hevents⟩ := List.forall_mem_cons.1 hevents
    have hcut : cut (e ++ (events.flatten ++ rest)) = some (e, events.flatten ++ rest) :=
      cut_eq_some_iff.2 ⟨rfl, he⟩
    rw [List.flatten_cons, List.append_assoc, split_of_some hcut, ih hevents]
    rfl

lemma split_splits (cs : List Char) : Splits cs (split cs).1 (split cs).2 := by
  induction h : cs.length using Nat.strongRecOn generalizing cs with
  | _ n ih =>
    cases hcut : cut cs with
    | none =>
      rw [split_of_none hcut]
      exact ⟨rfl, List.forall_mem_nil _, cut_eq_none_iff.1 hcut⟩
    | some found =>
      obtain ⟨event, rest⟩ := found
      obtain ⟨htext, hevents, hrest⟩ := ih rest.length (h ▸ length_cut hcut) rest rfl
      obtain ⟨hcs, hevent⟩ := cut_eq_some_iff.1 hcut
      rw [split_of_some hcut]
      refine ⟨?_, List.forall_mem_cons.2 ⟨hevent, hevents⟩, hrest⟩
      rw [List.flatten_cons, List.append_assoc, ← htext, hcs]

/-- There is one way to split a text. -/
theorem splits_iff : Splits text events rest ↔ split text = (events, rest) := by
  refine ⟨fun ⟨htext, hevents, hrest⟩ => ?_, fun h => ?_⟩
  · rw [htext, split_flatten hevents, split_of_none (cut_eq_none_iff.2 hrest), List.append_nil]
  · have hsplits := split_splits text
    rwa [h] at hsplits

lemma Splits.unique {rest' : List Char} (h : Splits text events rest)
    (h' : Splits text events' rest') : events = events' ∧ rest = rest' :=
  Prod.mk.inj ((splits_iff.1 h).symm.trans (splits_iff.1 h'))

/-- After a CR comes an LF. -/
def Paired (c d : Char) : Prop := c = '\r' → d = '\n'

instance : DecidableRel Paired := fun c d => inferInstanceAs (Decidable (c = '\r' → d = '\n'))

lemma dropReturns_cons (h : c ≠ '\r') : dropReturns (c :: cs) = c :: dropReturns cs := by
  rw [dropReturns]
  rintro rest rfl
  exact absurd rfl h

lemma dropReturns_append_of_notMem (h : '\r' ∉ cs) :
    dropReturns (cs ++ ds) = cs ++ dropReturns ds := by
  induction cs with
  | nil => rfl
  | cons c cs ih =>
    rw [List.mem_cons, not_or] at h
    rw [List.cons_append, dropReturns_cons (Ne.symm h.1), ih h.2, List.cons_append]

/-- Returns may as well be dropped from a part of the text first. -/
lemma dropReturns_append (h : cs.IsChain Paired) :
    dropReturns (dropReturns cs ++ ds) = dropReturns (cs ++ ds) := by
  fun_induction dropReturns cs with
  | case1 => rfl
  | case2 rest ih =>
    rw [List.cons_append, dropReturns_cons (by decide), ih h.tail.tail]
    rfl
  | case3 c rest hpair ih =>
    by_cases hc : c = '\r'
    · -- Only at the end may a CR stand alone.
      obtain _ | ⟨d, rest⟩ := rest
      · rfl
      · obtain rfl := (List.isChain_cons_cons.1 h).1 hc
        exact absurd rfl (hpair rest hc)
    · rw [List.cons_append, List.cons_append, dropReturns_cons hc, dropReturns_cons hc, ih h.tail]

lemma eq_nil_of_return {front : List Char} (h : cs.IsChain Paired)
    (hcs : dropReturns cs = front ++ '\r' :: rest) : rest = [] := by
  fun_induction dropReturns cs generalizing front with
  | case1 => simp at hcs
  | case2 more ih =>
    obtain _ | ⟨_, front⟩ := front
    · cases hcs
    · exact ih h.tail.tail (List.cons.inj hcs).2
  | case3 c more hpair ih =>
    obtain _ | ⟨_, front⟩ := front
    · obtain ⟨rfl, hmore⟩ := List.cons.inj hcs
      obtain _ | ⟨d, more⟩ := more
      · exact hmore.symm
      · obtain rfl := (List.isChain_cons_cons.1 h).1 rfl
        exact absurd rfl (hpair more rfl)
    · exact ih h.tail (List.cons.inj hcs).2

lemma not_return_of_endsBlank {front : List Char} (hevents : ∀ e ∈ events, EndsBlank e) :
    events.flatten ≠ front ++ ['\r'] := by
  intro h
  obtain rfl | ⟨es, e, rfl⟩ := List.eq_nil_or_concat' events
  · simp at h
  · obtain ⟨start, rfl, -⟩ := hevents e (by simp)
    have hlast : (es.flatten ++ start ++ ['\n']) ++ ['\n'] = front ++ ['\r'] := by
      rw [← h]
      simp [blankLine]
    exact absurd (List.append_inj' hlast rfl).2 (by decide)

/-- Events that were split off before stay as they are when more comes. -/
lemma dropReturns_more (h : cs.IsChain Paired) (hsplits : Splits (dropReturns cs) events text)
    (ds : List Char) :
    dropReturns (cs ++ ds) = events.flatten ++ dropReturns (text ++ ds) := by
  have hclean : '\r' ∉ events.flatten := by
    intro hmem
    obtain ⟨front, rest, hrest⟩ := List.append_of_mem hmem
    have htext : dropReturns cs = front ++ '\r' :: (rest ++ text) := by
      rw [hsplits.text_eq, hrest]
      simp
    obtain ⟨rfl, -⟩ := List.append_eq_nil_iff.1 (eq_nil_of_return h htext)
    exact not_return_of_endsBlank hsplits.events hrest
  rw [← dropReturns_append h, hsplits.text_eq, List.append_assoc,
    dropReturns_append_of_notMem hclean]

/-- How many bytes are read is settled by the characters that are whole. -/
lemma readable_chars {bs held : List UInt8} (h : Utf8.scan [] bs = (cs.map .char, held)) :
    readable bs = (Utf8.encode cs).length := by
  have hbs := Utf8.eq_encode_append h
  unfold readable
  rw [Utf8.validPrefix_chars h]
  by_cases hheld : held = []
  · simp [hheld, hbs]
  · simp [hheld]

/-- The events that come with all of some chunks, and the buffer after them. -/
def pushAll (b : EventBuffer) : List (List UInt8) → List (List Char) × EventBuffer
  | [] => ([], b)
  | chunk :: rest =>
    let (events, b) := b.push chunk
    let (more, b) := pushAll b rest
    (events ++ more, b)

/-- What a new buffer reports of a body: the events that come with its chunks, and what is left. -/
def reported (chunks : List (List UInt8)) : List (List Char) :=
  let (events, b) := pushAll {} chunks
  events ++ b.finish.toList

/-- A buffer that has taken some bytes and given out some events. It holds back a part of a
character, and the text after the last event. -/
def Follows (bytes : List UInt8) (events : List (List Char)) (b : EventBuffer) : Prop :=
  ∃ cs, Utf8.scan [] bytes = (cs.map .char, b.pending) ∧ Splits (dropReturns cs) events b.text

lemma follows_nil : Follows [] [] {} :=
  ⟨[], rfl, rfl, List.forall_mem_nil _, by decide⟩

/-- The characters that are whole with a chunk are added to the text. -/
lemma push_chars {b : EventBuffer} {chunk held : List UInt8}
    (h : Utf8.scan [] (b.pending ++ chunk) = (cs.map .char, held)) :
    b.push chunk = ((split (dropReturns (b.text ++ cs))).1,
      ⟨(split (dropReturns (b.text ++ cs))).2, held⟩) := by
  have hbytes := Utf8.eq_encode_append h
  unfold push
  dsimp only
  rw [readable_chars h, hbytes, List.take_left, List.drop_left, Utf8.decodeLossy_encode]

/-- One chunk takes a buffer on, as long as the bytes start a text. -/
theorem push_follows {bytes chunk later : List UInt8} {b : EventBuffer}
    (h : Follows bytes events b) (hpaired : cs.IsChain Paired)
    (hbody : Utf8.encode cs = bytes ++ chunk ++ later) :
    Follows (bytes ++ chunk) (events ++ (b.push chunk).1) (b.push chunk).2 := by
  obtain ⟨ds, hscan, hsplits⟩ := h
  obtain ⟨es, held, hes, hall⟩ := Utf8.scan_of_encode hbody
  have hread := hall
  rw [Utf8.scan_append, hscan, Prod.mk.injEq] at hread
  obtain ⟨hchars, hheld⟩ := hread
  obtain ⟨front, new, rfl, hfront, hnew⟩ := List.map_eq_append_iff.1 hchars.symm
  obtain rfl : front = ds := List.map_injective_iff.2 (fun _ _ => Utf8.Piece.char.inj) hfront
  have hchunk : Utf8.scan [] (b.pending ++ chunk) = (new.map .char, held) := by
    rw [Utf8.scan_append, Utf8.scan_held hscan]
    exact Prod.ext hnew.symm hheld
  have hstart : front.IsChain Paired :=
    List.IsChain.prefix hpaired ((List.prefix_append front new).trans hes)
  rw [push_chars hchunk]
  refine ⟨front ++ new, hall, splits_iff.2 ?_⟩
  rw [dropReturns_more hstart hsplits, split_flatten hsplits.events]

lemma pushAll_follows {chunks : List (List UInt8)} {bytes : List UInt8} {b : EventBuffer}
    (h : Follows bytes events b) (hpaired : cs.IsChain Paired)
    (hbody : Utf8.encode cs = bytes ++ chunks.flatten) :
    Follows (bytes ++ chunks.flatten) (events ++ (pushAll b chunks).1) (pushAll b chunks).2 := by
  induction chunks generalizing bytes events b with
  | nil => simpa [pushAll] using h
  | cons chunk chunks ih =>
    rw [List.flatten_cons, ← List.append_assoc] at hbody ⊢
    have hrest := ih (push_follows h hpaired hbody) hbody
    rw [List.append_assoc events] at hrest
    exact hrest

/-- What a body is reported as is the events of its text and what is left after them, unless that is
blank. -/
theorem reported_splits {chunks : List (List UInt8)} (hbody : chunks.flatten = Utf8.encode cs)
    (hpaired : cs.IsChain Paired) :
    ∃ events rest, Splits (dropReturns cs) events rest ∧
      reported chunks = events ++ if rest.all isBlank then [] else [rest] := by
  have hall := pushAll_follows follows_nil hpaired hbody.symm
  rw [List.nil_append, List.nil_append, hbody] at hall
  obtain ⟨ds, hscan, hsplits⟩ := hall
  rw [Utf8.scan_encode, Prod.mk.injEq] at hscan
  obtain ⟨hds, hpending⟩ := hscan
  obtain rfl : cs = ds := List.map_injective_iff.2 (fun _ _ => Utf8.Piece.char.inj) hds
  have hclean : dropReturns (pushAll {} chunks).2.text = (pushAll {} chunks).2.text := by
    have hmore := dropReturns_more hpaired hsplits []
    rw [List.append_nil, List.append_nil, hsplits.text_eq] at hmore
    exact (List.append_cancel_left hmore).symm
  have hfinish : (pushAll {} chunks).2.finish.toList =
      if (pushAll {} chunks).2.text.all isBlank then [] else [(pushAll {} chunks).2.text] := by
    have hempty : Utf8.decodeLossy [] = [] := rfl
    unfold finish
    dsimp only
    rw [← hpending, hempty, List.append_nil, hclean]
    split_ifs <;> rfl
  exact ⟨_, _, hsplits, congrArg ((pushAll {} chunks).1 ++ ·) hfinish⟩

end Parley.EventBuffer
