import Mathlib.Tactic.Lemma
import Mathlib.Tactic.SplitIfs
import Parley.Text.Utf8

/-!
# Reading back what was written in UTF-8

`Spelling` says which bytes write a character. Reading finds a character exactly at its spelling, so
the bytes of a text read as that text (`scan_encode`), no byte is lost on the way (`bytes_scan`),
and bytes are the encoding of a text exactly if nothing is wrong with them
(`validPrefix_eq_none_iff`).
-/

namespace Parley.Text.Utf8

lemma isContinuation_iff (b : UInt8) :
    isContinuation b = true ↔ 0x80 ≤ b.toNat ∧ b.toNat ≤ 0xbf := by
  simp [isContinuation, UInt8.le_iff_toNat_le]

lemma isSecond_iff (a b : UInt8) :
    isSecond a b = true ↔ (0xc2 ≤ a.toNat ∧ a.toNat ≤ 0xf4) ∧ (0x80 ≤ b.toNat ∧ b.toNat ≤ 0xbf) ∧
      (a.toNat = 0xe0 → 0xa0 ≤ b.toNat) ∧ (a.toNat = 0xed → b.toNat ≤ 0x9f) ∧
      (a.toNat = 0xf0 → 0x90 ≤ b.toNat) ∧ (a.toNat = 0xf4 → b.toNat ≤ 0x8f) := by
  simp only [isSecond, ← UInt8.toNat_inj]
  split_ifs <;> simp only [Bool.and_eq_true, decide_eq_true_eq, isContinuation_iff,
    UInt8.le_iff_toNat_le, UInt8.reduceToNat] at * <;> omega

/-- Four ways to write a character, by how many bytes it takes. -/
inductive Spelling : Char → List UInt8 → Prop
  | one {c : Char} {a : UInt8} (ha : a.toNat < 0x80) (hc : c.val.toNat = a.toNat) : Spelling c [a]
  | two {c : Char} {a b : UInt8} (hs : isSecond a b) (ha : a.toNat < 0xe0)
      (hc : c.val.toNat = a.toNat % 32 * 64 + low b) : Spelling c [a, b]
  | three {c : Char} {a b d : UInt8} (hs : isSecond a b) (hd : isContinuation d)
      (ha : 0xe0 ≤ a.toNat ∧ a.toNat < 0xf0)
      (hc : c.val.toNat = a.toNat % 16 * 4096 + low b * 64 + low d) : Spelling c [a, b, d]
  | four {c : Char} {a b d e : UInt8} (hs : isSecond a b) (hd : isContinuation d)
      (he : isContinuation e) (ha : 0xf0 ≤ a.toNat)
      (hc : c.val.toNat = a.toNat % 8 * 262144 + low b * 4096 + low d * 64 + low e) :
      Spelling c [a, b, d, e]

lemma toNat_byte {n : Nat} (h : n < 256) : (UInt8.ofNat n).toNat = n := by
  rw [UInt8.toNat_ofNat', Nat.mod_eq_of_lt h]

lemma spelling_encodeChar (c : Char) : Spelling c (encodeChar c) := by
  have hv : c.val.toNat < 0xd800 ∨ 0xdfff < c.val.toNat ∧ c.val.toNat < 0x110000 := c.valid
  unfold encodeChar String.utf8EncodeChar
  generalize hn : c.val.toNat = n at hv
  simp only []
  split_ifs with h1 h2 h3
  · refine .one ?_ ?_ <;> rw [toNat_byte (by omega)] <;> omega
  · refine .two ?_ ?_ ?_
    · rw [isSecond_iff, toNat_byte (by omega), toNat_byte (by omega)]
      omega
    · rw [toNat_byte (by omega)]
      omega
    · rw [low, toNat_byte (by omega), toNat_byte (by omega)]
      omega
  · refine .three ?_ ?_ ?_ ?_
    · rw [isSecond_iff, toNat_byte (by omega), toNat_byte (by omega)]
      omega
    · rw [isContinuation_iff, toNat_byte (by omega)]
      omega
    · rw [toNat_byte (by omega)]
      omega
    · rw [low, low, toNat_byte (by omega), toNat_byte (by omega), toNat_byte (by omega)]
      omega
  · refine .four ?_ ?_ ?_ ?_ ?_
    · rw [isSecond_iff, toNat_byte (by omega), toNat_byte (by omega)]
      omega
    · rw [isContinuation_iff, toNat_byte (by omega)]
      omega
    · rw [isContinuation_iff, toNat_byte (by omega)]
      omega
    · rw [toNat_byte (by omega)]
      omega
    · rw [low, low, low, toNat_byte (by omega), toNat_byte (by omega), toNat_byte (by omega),
        toNat_byte (by omega)]
      omega

lemma toNat_ofNat {n : Nat} (h : n.isValidChar) : (Char.ofNat n).val.toNat = n := by
  rw [Char.ofNat, dif_pos h]
  rfl

lemma ofNat_eq {c : Char} {n : Nat} (h : c.val.toNat = n) : Char.ofNat n = c := by
  rw [← h]
  exact Char.ofNat_toNat c

lemma form_of_spelling {c : Char} {bs : List UInt8} (h : Spelling c bs) : form bs = .char c := by
  cases h with
  | one ha hc => simp [form, UInt8.lt_iff_toNat_lt, ha, ofNat_eq hc]
  | two hs ha hc => simp [form, hs, UInt8.lt_iff_toNat_lt, ha, ofNat_eq hc]
  | three hs hd ha hc =>
    simp [form, hs, hd, UInt8.lt_iff_toNat_lt, UInt8.le_iff_toNat_le, ha, ofNat_eq hc]
  | four hs hd he ha hc => simp [form, hs, hd, he, UInt8.le_iff_toNat_le, ha, ofNat_eq hc]

lemma spelling_of_form {c : Char} {bs : List UInt8} (h : form bs = .char c) : Spelling c bs := by
  rcases bs with _ | ⟨a, _ | ⟨b, _ | ⟨d, _ | ⟨e, _ | ⟨_, _⟩⟩⟩⟩⟩
  · simp [form] at h
  · simp only [form, UInt8.lt_iff_toNat_lt, UInt8.reduceToNat] at h
    split_ifs at h with ha
    obtain rfl := Form.char.inj h
    refine .one ha (toNat_ofNat (Or.inl (by omega)))
  · simp only [form, UInt8.lt_iff_toNat_lt, UInt8.reduceToNat] at h
    split_ifs at h with hs ha
    obtain rfl := Form.char.inj h
    refine .two hs ha (toNat_ofNat (Or.inl ?_))
    rw [low]
    omega
  · simp only [form, UInt8.lt_iff_toNat_lt, UInt8.le_iff_toNat_le, UInt8.reduceToNat,
      Bool.and_eq_true, decide_eq_true_eq] at h
    split_ifs at h with hs ha
    obtain rfl := Form.char.inj h
    obtain ⟨⟨ha', hs⟩, hd⟩ := hs
    refine .three hs hd ⟨ha', ha⟩ (toNat_ofNat ?_)
    rw [isSecond_iff] at hs
    rw [low, low]
    simp only [Nat.isValidChar]
    omega
  · simp only [form, UInt8.le_iff_toNat_le, UInt8.reduceToNat, Bool.and_eq_true,
      decide_eq_true_eq] at h
    split_ifs at h with hs
    obtain rfl := Form.char.inj h
    obtain ⟨⟨⟨ha, hs⟩, hd⟩, he⟩ := hs
    refine .four hs hd he ha (toNat_ofNat ?_)
    rw [isSecond_iff] at hs
    rw [low, low, low]
    simp only [Nat.isValidChar]
    omega
  · simp [form] at h

lemma eq_encodeChar {c : Char} {bs : List UInt8} (h : Spelling c bs) : bs = encodeChar c := by
  have byte {b : UInt8} {n : Nat} (h : b.toNat = n) : b = UInt8.ofNat n := by
    rw [← h, UInt8.ofNat_toNat]
  unfold encodeChar String.utf8EncodeChar
  cases h with
  | one ha hc =>
    simp only [hc]
    rw [if_pos (by omega), ← byte rfl]
  | two hs ha hc =>
    rw [isSecond_iff] at hs
    simp only [low] at hc
    simp only [hc]
    rw [if_neg (by omega), if_pos (by omega)]
    simp only [List.cons.injEq, and_true]
    exact ⟨byte (by omega), byte (by omega)⟩
  | three hs hd ha hc =>
    rw [isSecond_iff] at hs
    rw [isContinuation_iff] at hd
    simp only [low] at hc
    simp only [hc]
    rw [if_neg (by omega), if_neg (by omega), if_pos (by omega)]
    simp only [List.cons.injEq, and_true]
    exact ⟨byte (by omega), byte (by omega), byte (by omega)⟩
  | four hs hd he ha hc =>
    rw [isSecond_iff] at hs
    rw [isContinuation_iff] at hd he
    simp only [low] at hc
    simp only [hc]
    rw [if_neg (by omega), if_neg (by omega), if_neg (by omega)]
    simp only [List.cons.injEq, and_true]
    exact ⟨byte (by omega), byte (by omega), byte (by omega), byte (by omega)⟩

theorem form_eq_char_iff (c : Char) (bs : List UInt8) : form bs = .char c ↔ bs = encodeChar c :=
  ⟨fun h => eq_encodeChar (spelling_of_form h),
    fun h => form_of_spelling (h ▸ spelling_encodeChar c)⟩

/-- A part of a character from its start is unfinished. -/
lemma form_of_start {c : Char} {xs ys : List UInt8} (h : Spelling c (xs ++ ys)) (hy : ys ≠ []) :
    form xs = .unfinished := by
  rcases xs with _ | ⟨x₀, _ | ⟨x₁, _ | ⟨x₂, _ | ⟨x₃, xs⟩⟩⟩⟩
  · rfl
  · have hx : 0xc2 ≤ x₀.toNat ∧ x₀.toNat ≤ 0xf4 := by
      cases h with
      | one => exact absurd rfl hy
      | two hs | three hs | four hs => exact ((isSecond_iff _ _).1 hs).1
    simp [form, UInt8.le_iff_toNat_le, UInt8.lt_iff_toNat_lt, hx]
    omega
  · have hx : isSecond x₀ x₁ ∧ 0xe0 ≤ x₀.toNat := by
      cases h with
      | two => exact absurd rfl hy
      | three hs _ ha => exact ⟨hs, ha.1⟩
      | four hs _ _ ha => exact ⟨hs, by omega⟩
    simp [form, UInt8.lt_iff_toNat_lt, hx]
  · have hx : isSecond x₀ x₁ ∧ isContinuation x₂ ∧ 0xf0 ≤ x₀.toNat := by
      cases h with
      | three => exact absurd rfl hy
      | four hs hd _ ha => exact ⟨hs, hd, ha⟩
    have ha : ¬x₀.toNat < 0xf0 := by omega
    simp [form, UInt8.le_iff_toNat_le, UInt8.lt_iff_toNat_lt, hx, ha]
    omega
  · generalize hbs : x₀ :: x₁ :: x₂ :: x₃ :: xs ++ ys = bs at h
    cases h <;> simp_all

lemma step_char {c : Char} {held : List UInt8} {b : UInt8} (h : form (held ++ [b]) = .char c) :
    step held b = ([.char c], []) := by
  cases held with
  | nil => simp_all [step, start]
  | cons => rw [step, h]; simp

lemma step_unfinished {held : List UInt8} {b : UInt8} (h : form (held ++ [b]) = .unfinished) :
    step held b = ([], held ++ [b]) := by
  cases held with
  | nil => simp_all [step, start]
  | cons => rw [step, h]; simp

lemma scan_cons (held bs : List UInt8) (b : UInt8) :
    scan held (b :: bs) =
      ((step held b).1 ++ (scan (step held b).2 bs).1, (scan (step held b).2 bs).2) := rfl

lemma scan_rest {c : Char} {held bs : List UInt8} (h : Spelling c (held ++ bs)) (hb : bs ≠ []) :
    scan held bs = ([.char c], []) := by
  induction bs generalizing held with
  | nil => exact absurd rfl hb
  | cons b bs ih =>
    rw [← List.singleton_append, ← List.append_assoc] at h
    rw [scan_cons]
    by_cases hbs : bs = []
    · subst hbs
      rw [List.append_nil] at h
      rw [step_char (form_of_spelling h)]
      rfl
    · rw [step_unfinished (form_of_start h hbs)]
      dsimp only
      rw [ih h hbs]
      rfl

/-- Only the NUL character is written with a zero byte. -/
lemma eq_nul_of_zero_mem {c : Char} (h : 0 ∈ encodeChar c) : c = '\x00' := by
  have hc := spelling_encodeChar c
  generalize encodeChar c = bs at h hc
  obtain ⟨b, hb, hzero⟩ : ∃ b ∈ bs, b.toNat = 0 := ⟨0, h, rfl⟩
  cases hc with
  | one _ hc =>
    obtain rfl := List.mem_singleton.1 h
    exact Char.ext (UInt32.toNat_inj.1 hc)
  | two hs =>
    rw [isSecond_iff] at hs
    simp only [List.mem_cons, List.not_mem_nil, or_false] at hb
    rcases hb with rfl | rfl <;> omega
  | three hs hd =>
    rw [isSecond_iff] at hs
    rw [isContinuation_iff] at hd
    simp only [List.mem_cons, List.not_mem_nil, or_false] at hb
    rcases hb with rfl | rfl | rfl <;> omega
  | four hs hd he =>
    rw [isSecond_iff] at hs
    rw [isContinuation_iff] at hd he
    simp only [List.mem_cons, List.not_mem_nil, or_false] at hb
    rcases hb with rfl | rfl | rfl | rfl <;> omega

/-- Reading the encoding of a text gives its characters. -/
theorem scan_encode (cs : List Char) : scan [] (encode cs) = (cs.map .char, []) := by
  induction cs with
  | nil => rfl
  | cons c cs ih =>
    have hc : scan [] (encodeChar c) = ([.char c], []) :=
      scan_rest (by exact spelling_encodeChar c) String.utf8EncodeChar_ne_nil
    rw [encode, List.flatMap_cons, ← encode, scan_append, hc, ih]
    rfl

lemma decodeLossy_encode (cs : List Char) : decodeLossy (encode cs) = cs := by
  have hlossy : Piece.lossy ∘ Piece.char = id := rfl
  simp [decodeLossy, scan_encode, hlossy]

lemma bytes_start (b : UInt8) : (start b).1.flatMap Piece.bytes ++ (start b).2 = [b] := by
  unfold start
  split
  · next c h => simp [Piece.bytes, (form_eq_char_iff c [b]).1 h]
  · rfl
  · rfl

lemma bytes_step (held : List UInt8) (b : UInt8) :
    (step held b).1.flatMap Piece.bytes ++ (step held b).2 = held ++ [b] := by
  unfold step
  split
  · exact bytes_start b
  · split
    · next c h => simp [Piece.bytes, (form_eq_char_iff c (held ++ [b])).1 h]
    · rfl
    · simp [Piece.bytes, bytes_start]

/-- No byte is lost: those of the pieces and those held back are the bytes read. -/
theorem bytes_scan (held bs : List UInt8) :
    (scan held bs).1.flatMap Piece.bytes ++ (scan held bs).2 = held ++ bs := by
  induction bs generalizing held with
  | nil => simp [scan]
  | cons b bs ih =>
    rw [scan_cons, List.flatMap_append, List.append_assoc, ih, ← List.append_assoc, bytes_step,
      List.append_assoc, List.singleton_append]

/-- Bytes that a text may start with: whole characters, and perhaps a part of one more. -/
def Promising (bs : List UInt8) : Prop :=
  ∃ (cs : List Char) (held : List UInt8), scan [] bs = (cs.map .char, held)

lemma eq_encode_append {bs held : List UInt8} {cs : List Char}
    (h : scan [] bs = (cs.map .char, held)) : bs = encode cs ++ held := by
  have hb := bytes_scan [] bs
  rw [h, List.flatMap_map, List.nil_append] at hb
  exact hb.symm

/-- The start of what a text is written with reads as the start of that text. -/
lemma scan_of_encode {xs ys : List UInt8} {cs : List Char} (h : encode cs = xs ++ ys) :
    ∃ ds held, ds <+: cs ∧ scan [] xs = (ds.map .char, held) := by
  have hs := scan_encode cs
  rw [h, scan_append, Prod.mk.injEq] at hs
  obtain ⟨ds, es, hcs, hds, _⟩ := List.map_eq_append_iff.1 hs.1.symm
  exact ⟨ds, (scan [] xs).2, ⟨es, hcs.symm⟩, by rw [hds]⟩

theorem promising_of_encode {xs ys : List UInt8} {cs : List Char} (h : encode cs = xs ++ ys) :
    Promising xs := by
  obtain ⟨ds, held, -, hscan⟩ := scan_of_encode h
  exact ⟨ds, held, hscan⟩

lemma scan_encode_append (cs : List Char) (bs : List UInt8) :
    scan [] (encode cs ++ bs) = (cs.map .char ++ (scan [] bs).1, (scan [] bs).2) := by
  rw [scan_append, scan_encode]

/-- What is held back is read as a part of a character again. -/
lemma scan_held {cs : List Char} {bs held : List UInt8}
    (h : scan [] bs = (cs.map .char, held)) : scan [] held = ([], held) := by
  have hb := scan_encode_append cs held
  rw [← eq_encode_append h, h, Prod.mk.injEq] at hb
  exact Prod.ext (List.self_eq_append_right.1 hb.1) hb.2.symm

lemma promising_of_encode_append {cs : List Char} {bs : List UInt8}
    (h : Promising (encode cs ++ bs)) : Promising bs := by
  obtain ⟨ds, held, h⟩ := h
  rw [scan_encode_append, Prod.mk.injEq] at h
  obtain ⟨_, es, _, _, hes⟩ := List.map_eq_append_iff.1 h.1.symm
  exact ⟨es, (scan [] bs).2, by rw [hes]⟩

/-- What is left of a text after whole characters is a text. -/
theorem exists_encode_of_append {cs ds : List Char} {bs : List UInt8}
    (h : encode ds = encode cs ++ bs) : ∃ es, bs = encode es := by
  have hs := scan_encode ds
  rw [h, scan_encode_append, Prod.mk.injEq] at hs
  obtain ⟨_, es, _, _, hes⟩ := List.map_eq_append_iff.1 hs.1.symm
  refine ⟨es, ?_⟩
  rw [eq_encode_append (Prod.ext hes.symm hs.2), List.append_nil]

lemma leading_chars (cs : List Char) : leading (cs.map .char) = (cs, none) := by
  induction cs with
  | nil => rfl
  | cons c cs ih => rw [List.map_cons, leading, ih]

lemma leading_eq_chars {ps : List Piece} (h : (leading ps).2 = none) :
    ps = (leading ps).1.map .char := by
  induction ps with
  | nil => rfl
  | cons p ps ih =>
    cases p with
    | bad => simp [leading] at h
    | char c =>
      rw [leading, List.map_cons]
      exact congrArg (Piece.char c :: ·) (ih h)

lemma validPrefix_chars {bs held : List UInt8} {cs : List Char}
    (h : scan [] bs = (cs.map .char, held)) :
    validPrefix bs =
      (cs, if held.isEmpty then none else some ⟨(encode cs).length, none⟩) := by
  simp [validPrefix, h, leading_chars]

lemma promising_iff (bs : List UInt8) : Promising bs ↔ (leading (scan [] bs).1).2 = none := by
  refine ⟨?_, fun h => ⟨_, _, Prod.ext (leading_eq_chars h) rfl⟩⟩
  rintro ⟨cs, held, hscan⟩
  rw [hscan, leading_chars]

instance (bs : List UInt8) : Decidable (Promising bs) :=
  decidable_of_iff' _ (promising_iff bs)

lemma validPrefix_malformed {bs : List UInt8} (h : ¬Promising bs) :
    ∃ cs i n, validPrefix bs = (cs, some ⟨i, some n⟩) := by
  unfold validPrefix
  cases hl : (leading (scan [] bs).1).2 with
  | none => exact absurd ⟨_, _, Prod.ext (leading_eq_chars hl) rfl⟩ h
  | some run => exact ⟨_, _, _, by simp only [hl]; rfl⟩

/-- Nothing is wrong with some bytes exactly if they are the encoding of a text. -/
theorem validPrefix_eq_none_iff (bs : List UInt8) (cs : List Char) :
    validPrefix bs = (cs, none) ↔ bs = encode cs := by
  constructor
  · intro h
    by_cases hp : Promising bs
    · obtain ⟨ds, held, hs⟩ := hp
      rw [validPrefix_chars hs] at h
      split at h <;> simp_all [eq_encode_append hs]
    · obtain ⟨_, _, _, hm⟩ := validPrefix_malformed hp
      simp [hm] at h
  · rintro rfl
    simp [validPrefix_chars (scan_encode cs)]

lemma toString?_encode (cs : List Char) : toString? (encode cs) = some (String.ofList cs) := by
  rw [toString?, decode?, (validPrefix_eq_none_iff _ cs).2 rfl]
  rfl

/-- A text may start with whatever it may start with in front of more. -/
lemma Promising.left {xs ys : List UInt8} (h : Promising (xs ++ ys)) : Promising xs := by
  obtain ⟨cs, held, h⟩ := h
  rw [scan_append, Prod.mk.injEq] at h
  obtain ⟨ds, _, _, hds, _⟩ := List.map_eq_append_iff.1 h.1.symm
  exact ⟨ds, (scan [] xs).2, by rw [hds]⟩

lemma promising_encode (cs : List Char) : Promising (encode cs) := ⟨cs, [], scan_encode cs⟩

lemma form_start (b : UInt8) : form (start b).2 = .unfinished := by
  unfold start
  split
  · rfl
  · assumption
  · rfl

lemma form_step (held : List UInt8) (b : UInt8) : form (step held b).2 = .unfinished := by
  unfold step
  split
  · exact form_start b
  · split
    · rfl
    · assumption
    · exact form_start b

/-- What is held back is a character that was begun, or nothing. -/
lemma form_scan {held : List UInt8} (h : form held = .unfinished) (bs : List UInt8) :
    form (scan held bs).2 = .unfinished := by
  induction bs generalizing held with
  | nil => exact h
  | cons b bs ih =>
    rw [scan_cons]
    exact ih (form_step held b)

lemma form_scan_nil (bs : List UInt8) : form (scan [] bs).2 = .unfinished := form_scan rfl bs

lemma length_of_unfinished {bs : List UInt8} (h : form bs = .unfinished) : bs.length < 4 := by
  rcases bs with _ | ⟨a, _ | ⟨b, _ | ⟨d, _ | ⟨e, _ | ⟨_, _⟩⟩⟩⟩⟩
  · simp
  · simp
  · simp
  · simp
  · simp only [form] at h
    split_ifs at h
  · cases h

lemma exists_isSecond {a : UInt8} (ha : 0xc2 ≤ a.toNat ∧ a.toNat ≤ 0xf4) :
    ∃ b, isSecond a b = true := by
  by_cases hlow : a.toNat = 0xe0 ∨ a.toNat = 0xf0
  · refine ⟨0xa0, (isSecond_iff a 0xa0).2 ?_⟩
    simp only [UInt8.reduceToNat]
    omega
  · refine ⟨0x80, (isSecond_iff a 0x80).2 ?_⟩
    simp only [UInt8.reduceToNat]
    omega

/-- A character that was begun can go on. -/
lemma exists_next {bs : List UInt8} (h : form bs = .unfinished) (hbs : bs ≠ []) :
    ∃ b, form (bs ++ [b]) ≠ .malformed := by
  have hlast : isContinuation 0x80 = true := by decide
  rcases bs with _ | ⟨a, _ | ⟨b, _ | ⟨d, _ | ⟨e, bs⟩⟩⟩⟩
  · exact absurd rfl hbs
  · simp only [form, UInt8.le_iff_toNat_le, UInt8.reduceToNat, Bool.and_eq_true,
      decide_eq_true_eq] at h
    split_ifs at h with hchar ha
    obtain ⟨b, hb⟩ := exists_isSecond ha
    refine ⟨b, ?_⟩
    simp only [List.singleton_append, form, hb]
    split_ifs <;> exact Form.noConfusion
  · simp only [form] at h
    split_ifs at h with hs ha
    refine ⟨0x80, ?_⟩
    rw [UInt8.not_lt] at ha
    simp only [List.cons_append, List.nil_append, form, hs, ha, hlast]
    split_ifs <;> simp_all
  · simp only [form, Bool.and_eq_true, decide_eq_true_eq] at h
    split_ifs at h with hs ha
    refine ⟨0x80, ?_⟩
    rw [UInt8.not_lt] at ha
    simp only [List.cons_append, List.nil_append, form, hs.1.2, hs.2, ha, hlast]
    simp
  · have hlength := length_of_unfinished h
    simp at hlength
    omega

/-- A character that was begun can be completed. -/
theorem exists_completion {bs : List UInt8} (h : form bs = .unfinished) (hbs : bs ≠ []) :
    ∃ more c, bs ++ more = encodeChar c := by
  induction hn : 4 - bs.length using Nat.strongRecOn generalizing bs with
  | _ n ih =>
    have hlength := length_of_unfinished h
    obtain ⟨b, hb⟩ := exists_next h hbs
    cases hnext : form (bs ++ [b]) with
    | char c => exact ⟨[b], c, (form_eq_char_iff c _).1 hnext⟩
    | malformed => exact absurd hnext hb
    | unfinished =>
      have hless : 4 - (bs ++ [b]).length < n := by
        rw [List.length_append, List.length_singleton]
        omega
      obtain ⟨more, c, hc⟩ := ih _ hless hnext (by simp) rfl
      exact ⟨b :: more, c, by rw [← hc, List.append_assoc, List.singleton_append]⟩

/-- The start of a character, but not the whole of it. -/
def Begun (bs : List UInt8) : Prop := ∃ c more, more ≠ [] ∧ bs ++ more = encodeChar c

lemma begun_of_unfinished {bs : List UInt8} (h : form bs = .unfinished) : Begun bs := by
  by_cases hbs : bs = []
  · subst hbs
    exact ⟨'a', encodeChar 'a', String.utf8EncodeChar_ne_nil, rfl⟩
  · obtain ⟨more, c, hc⟩ := exists_completion h hbs
    refine ⟨c, more, ?_, hc⟩
    rintro rfl
    rw [List.append_nil] at hc
    cases h.symm.trans ((form_eq_char_iff c bs).2 hc)

lemma Begun.length_lt {bs : List UInt8} (h : Begun bs) : bs.length < 4 := by
  obtain ⟨c, more, hmore, hc⟩ := h
  exact length_of_unfinished (form_of_start (hc ▸ spelling_encodeChar c) hmore)

end Parley.Text.Utf8
