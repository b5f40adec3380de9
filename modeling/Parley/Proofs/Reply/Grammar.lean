import Parley.Proofs.Text.Utf8
import Parley.Reply.Decoder

/-!
# The grammar of a reply

`Framed text s bytes` says that some bytes are the encoding of a text without the mark, the mark,
the word of a status and anything after it. Bytes are framed in at most one way (`Framed.unique`).
The mark is looked for where its first byte may already have been read (`splitSentinel_append`).
-/

namespace Parley.Reply

open Text

/-- Some bytes are a text, the mark, the word of a status, and whatever follows. -/
def Framed (text : String) (s : Status) (bytes : Bytes) : Prop :=
  ¬sentinel <:+: Utf8.ofString text ∧
    ∃ rest, bytes = Utf8.ofString text ++ sentinel ++ s.token ++ rest

lemma splitSentinel_cons {b : UInt8} {bs : Bytes} (h : ¬(b = 0 ∧ bs.head? = some 10)) :
    splitSentinel (b :: bs) = (splitSentinel bs).map fun p => (b :: p.1, p.2) := by
  rw [splitSentinel]
  rintro rest rfl rfl
  exact h ⟨rfl, rfl⟩

lemma splitSentinel_mark (bs : Bytes) : splitSentinel (0 :: 10 :: bs) = some ([], bs) := rfl

theorem splitSentinel_eq_none_iff {bs : Bytes} :
    splitSentinel bs = none ↔ ¬sentinel <:+: bs := by
  induction bs with
  | nil => simp [splitSentinel, sentinel]
  | cons b bs ih =>
    by_cases h : b = 0 ∧ bs.head? = some 10
    · obtain ⟨rfl, h⟩ := h
      obtain ⟨rest, rfl⟩ := List.head?_eq_some_iff.1 h
      simp only [splitSentinel_mark, reduceCtorEq, false_iff, Classical.not_not]
      exact (List.prefix_append sentinel rest).isInfix
    · rw [splitSentinel_cons h, Option.map_eq_none_iff, ih, List.infix_cons_iff, not_or]
      refine ⟨fun hbs => ⟨fun hp => h ?_, hbs⟩, fun hbs => hbs.2⟩
      obtain ⟨rest, hrest⟩ := hp
      obtain ⟨rfl, rfl⟩ := List.cons.inj hrest
      exact ⟨rfl, rfl⟩

/-- What is read before the mark does not matter, even if the mark begins at its end. -/
theorem splitSentinel_append {xs ys zs : Bytes} (h : splitSentinel (xs ++ ys) = none)
    (hedge : ys = [] → xs.getLast? ≠ some 0) :
    splitSentinel (xs ++ (ys ++ zs)) =
      (splitSentinel (ys ++ zs)).map fun p => (xs ++ p.1, p.2) := by
  induction xs with
  | nil => exact Option.map_id'.symm
  | cons x xs ih =>
    have hx : ¬(x = 0 ∧ (xs ++ (ys ++ zs)).head? = some 10) := by
      rintro ⟨rfl, hh⟩
      cases xs with
      | cons x' xs =>
        obtain rfl : x' = 10 := by simpa using hh
        simp [splitSentinel_mark] at h
      | nil =>
        cases ys with
        | nil => exact hedge rfl rfl
        | cons y ys =>
          obtain rfl : y = 10 := by simpa using hh
          simp [splitSentinel_mark] at h
    have hx' : ¬(x = 0 ∧ (xs ++ ys).head? = some 10) := by
      rintro ⟨rfl, hh⟩
      refine hx ⟨rfl, ?_⟩
      rw [← List.append_assoc, List.head?_append, hh]
      rfl
    rw [List.cons_append, splitSentinel_cons hx', Option.map_eq_none_iff] at h
    rw [List.cons_append, splitSentinel_cons hx, ih h (fun hy hl => hedge hy (by
      rw [List.getLast?_cons, hl]
      rfl)), Option.map_map]
    rfl

theorem splitSentinel_eq_some_iff {bs front after : Bytes} :
    splitSentinel bs = some (front, after) ↔
      splitSentinel front = none ∧ bs = front ++ sentinel ++ after := by
  constructor
  · intro h
    induction bs generalizing front with
    | nil => simp [splitSentinel] at h
    | cons b bs ih =>
      by_cases hb : b = 0 ∧ bs.head? = some 10
      · obtain ⟨rfl, hb⟩ := hb
        obtain ⟨rest, rfl⟩ := List.head?_eq_some_iff.1 hb
        rw [splitSentinel_mark, Option.some.injEq, Prod.mk.injEq] at h
        obtain ⟨rfl, rfl⟩ := h
        exact ⟨rfl, rfl⟩
      · rw [splitSentinel_cons hb, Option.map_eq_some_iff] at h
        obtain ⟨⟨f, a⟩, hfa, heq⟩ := h
        obtain ⟨rfl, rfl⟩ := Prod.mk.inj heq
        obtain ⟨hf, rfl⟩ := ih hfa
        refine ⟨?_, rfl⟩
        rw [splitSentinel_cons, hf]
        · rfl
        · rintro ⟨rfl, hh⟩
          refine hb ⟨rfl, ?_⟩
          rw [List.append_assoc, List.head?_append, hh]
          rfl
  · rintro ⟨h, rfl⟩
    rw [List.append_assoc]
    by_cases hedge : front.getLast? = some 0
    · obtain ⟨xs, rfl⟩ := List.getLast?_eq_some_iff.1 hedge
      rw [List.append_assoc, splitSentinel_append h (by simp)]
      rfl
    · have happ := @splitSentinel_append front [] (sentinel ++ after)
        (by rwa [List.append_nil]) (fun _ => hedge)
      rw [List.nil_append] at happ
      rw [happ]
      simp [sentinel, splitSentinel_mark]

lemma splitSentinel_more {bs front after : Bytes} (h : splitSentinel bs = some (front, after))
    (more : Bytes) : splitSentinel (bs ++ more) = some (front, after ++ more) := by
  obtain ⟨hf, rfl⟩ := splitSentinel_eq_some_iff.1 h
  exact splitSentinel_eq_some_iff.2 ⟨hf, List.append_assoc _ _ _⟩

/-- Bytes in front of the mark may at most hold its first byte. -/
lemma prefix_of_clear {bs more front after : Bytes} (hclear : splitSentinel bs = none)
    (h : bs ++ more = front ++ sentinel ++ after) : bs <+: front ++ [0] := by
  rcases List.prefix_or_prefix_of_prefix (List.prefix_append bs more)
    (h ▸ List.prefix_append (front ++ sentinel) after) with hp | hp
  · rw [show front ++ sentinel = front ++ [0] ++ [10] by rw [List.append_assoc]; rfl,
      List.prefix_concat_iff] at hp
    rcases hp with rfl | hp
    · refine absurd ?_ (splitSentinel_eq_none_iff.1 hclear)
      rw [List.append_assoc]
      exact (List.suffix_append front sentinel).isInfix
    · exact hp
  · exact absurd ((List.suffix_append front sentinel).isInfix.trans hp.isInfix)
      (splitSentinel_eq_none_iff.1 hclear)

theorem framed_iff {text : String} {s : Status} {bytes : Bytes} :
    Framed text s bytes ↔
      ∃ rest, splitSentinel bytes = some (Utf8.ofString text, s.token ++ rest) := by
  simp only [Framed, splitSentinel_eq_some_iff, splitSentinel_eq_none_iff, List.append_assoc,
    exists_and_left]

lemma token_success : Status.success.token = [115, 117, 99, 99, 101, 115, 115] := by decide

lemma token_failure : Status.failure.token = [102, 97, 105, 108, 117, 114, 101] := by decide

theorem readStatus_token (s : Status) (rest : Bytes) :
    readStatus (s.token ++ rest) = .ok (some s) := by
  cases s with
  | success =>
    rw [readStatus, if_pos]
    exact List.isPrefixOf_iff_prefix.2 (List.prefix_append _ _)
  | failure =>
    rw [readStatus, if_neg, if_neg, if_pos]
    · exact List.isPrefixOf_iff_prefix.2 (List.prefix_append _ _)
    · simp [token_success, token_failure]
    · simp [token_success, token_failure]

lemma eq_token_append {bs : Bytes} {s : Status} (h : readStatus bs = .ok (some s)) :
    ∃ rest, bs = s.token ++ rest := by
  unfold readStatus at h
  split_ifs at h with hs hp hf <;> cases h
  · obtain ⟨rest, rfl⟩ := List.isPrefixOf_iff_prefix.1 hs
    exact ⟨rest, rfl⟩
  · obtain ⟨rest, rfl⟩ := List.isPrefixOf_iff_prefix.1 hf
    exact ⟨rest, rfl⟩

lemma readStatus_start {bs : Bytes} {s : Status} (h : bs <+: s.token) :
    ∃ found, readStatus bs = .ok found := by
  have hb := List.isPrefixOf_iff_prefix.2 h
  unfold readStatus
  cases s <;> split_ifs <;> exact ⟨_, rfl⟩

/-- What is not the start of a status word does not become one. -/
theorem readStatus_error {bs ys rest : Bytes} {e : ProtocolFault} {s : Status}
    (h : readStatus bs = .error e) : bs ++ ys ≠ s.token ++ rest := by
  intro heq
  rcases List.prefix_or_prefix_of_prefix (List.prefix_append bs ys)
    (heq ▸ List.prefix_append s.token rest) with hp | ⟨rest', rfl⟩
  · obtain ⟨_, hf⟩ := readStatus_start hp
    simp [hf] at h
  · simp [readStatus_token] at h

lemma prefix_of_readStatus {bs : Bytes} (h : readStatus bs = .ok none) :
    ∃ s : Status, bs <+: s.token := by
  unfold readStatus at h
  split_ifs at h with _ hp _ hq <;> cases h
  · exact ⟨.success, List.isPrefixOf_iff_prefix.1 hp⟩
  · exact ⟨.failure, List.isPrefixOf_iff_prefix.1 hq⟩

lemma readStatus_error_append {bs : Bytes} {e : ProtocolFault} (h : readStatus bs = .error e)
    (more : Bytes) : ∃ e', readStatus (bs ++ more) = .error e' := by
  cases hmore : readStatus (bs ++ more) with
  | error e' => exact ⟨e', rfl⟩
  | ok found =>
    cases found with
    | some s =>
      obtain ⟨rest, hrest⟩ := eq_token_append hmore
      exact absurd hrest (readStatus_error h)
    | none =>
      obtain ⟨s, hs⟩ := prefix_of_readStatus hmore
      obtain ⟨_, hfound⟩ := readStatus_start ((List.prefix_append bs more).trans hs)
      cases h.symm.trans hfound

lemma ofString_injective {s t : String} (h : Utf8.ofString s = Utf8.ofString t) : s = t := by
  have hs := Utf8.scan_encode s.toList
  rw [Utf8.ofString, Utf8.ofString] at h
  rw [h, Utf8.scan_encode, Prod.mk.injEq] at hs
  exact String.toList_inj.1 ((List.map_inj_right fun _ _ => Utf8.Piece.char.inj).1 hs.1.symm)

/-- Bytes have at most one reading as a reply. -/
theorem Framed.unique {text text' : String} {s s' : Status} {bytes : Bytes}
    (h : Framed text s bytes) (h' : Framed text' s' bytes) : text = text' ∧ s = s' := by
  obtain ⟨rest, h⟩ := framed_iff.1 h
  obtain ⟨rest', h'⟩ := framed_iff.1 h'
  rw [h, Option.some.injEq, Prod.mk.injEq] at h'
  have hs := readStatus_token s rest
  rw [h'.2, readStatus_token, Except.ok.injEq, Option.some.injEq] at hs
  exact ⟨ofString_injective h'.1, hs.symm⟩

theorem Framed.append {text : String} {s : Status} {bytes : Bytes} (h : Framed text s bytes)
    (more : Bytes) : Framed text s (bytes ++ more) := by
  obtain ⟨hclear, rest, rfl⟩ := h
  exact ⟨hclear, rest ++ more, by rw [List.append_assoc _ rest]⟩

end Parley.Reply
