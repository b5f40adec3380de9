import Mathlib.Data.List.TakeWhile
import Parley.Http.Form
import Parley.Proofs.Text.Digits
import Parley.Proofs.Text.Utf8

/-!
# Forms read back

A form is read back as it was written, whatever its names and texts (`Form.decode_encode`). A byte
is written as itself, as a plus sign, or as a percent sign and two digits (`Form.Writes`), and none
of these holds a separator.
-/

namespace Parley

namespace Text.Utf8

/-- Characters below 128 are written as one byte. -/
lemma encodeChar_of_lt {c : Char} {b : UInt8} (hb : b.toNat < 0x80) (hc : c.toNat = b.toNat) :
    encodeChar c = [b] := (eq_encodeChar (.one hb hc)).symm

lemma encode_append (cs ds : List Char) : encode (cs ++ ds) = encode cs ++ encode ds :=
  List.flatMap_append

lemma toStringLossy_ofString (s : String) : toStringLossy (ofString s) = s := by
  rw [toStringLossy, ofString, decodeLossy_encode, String.ofList_toList]

end Text.Utf8

namespace Http

open Text

namespace Percent

lemma decode_cons {b : UInt8} (h : b ≠ 37) (bs : List UInt8) :
    decode (b :: bs) = b :: decode bs := by
  rw [decode]
  rintro _ _ _ rfl
  exact absurd rfl h

lemma decode_digits {b high low : UInt8} (h : hexByte? high low = some b) (bs : List UInt8) :
    decode (37 :: high :: low :: bs) = b :: decode bs := by
  rw [decode, h]

end Percent

namespace Form

lemma toNat_of_isPlain {b : UInt8} (h : isPlain b) : b.toNat < 0x80 := by
  simp only [isPlain, Bool.or_eq_true, Bool.and_eq_true, decide_eq_true_eq, ← UInt8.toNat_inj,
    UInt8.le_iff_toNat_le, UInt8.reduceToNat] at h
  omega

/-- What is written as it is does not stand for anything else. -/
lemma ne_of_isPlain {b : UInt8} (h : isPlain b) : b ≠ 37 ∧ b ≠ 38 ∧ b ≠ 43 ∧ b ≠ 61 := by
  refine ⟨?_, ?_, ?_, ?_⟩ <;>
  · rintro rfl
    cases h

/-- The bytes that a byte is written as. -/
inductive Writes : UInt8 → List UInt8 → Prop
  | space : Writes 32 [43]
  | plain {b : UInt8} (h : isPlain b) : Writes b [b]
  | percent {b high low : UInt8} (h : Percent.hexByte? high low = some b)
    (hhigh : isPlain high) (hlow : isPlain low) : Writes b [37, high, low]

lemma upperDigit_read {n : Nat} (h : n < 16) : ∃ d : UInt8,
    Utf8.encodeChar (Percent.upperDigit n) = [d] ∧ isPlain d ∧
      hexDigit? (Char.ofNat d.toNat) = some n := by
  refine ⟨UInt8.ofNat (Percent.upperDigit n).toNat, ?_⟩
  revert n
  decide +kernel

lemma writes_encodeByte (b : UInt8) : Writes b (Utf8.encode (encodeByte b)) := by
  unfold encodeByte
  split_ifs with hspace hplain
  · subst hspace
    exact .space
  · have hb := toNat_of_isPlain hplain
    have hchar : (Char.ofNat b.toNat).toNat = b.toNat := Utf8.toNat_ofNat (.inl (by omega))
    rw [Utf8.encode, List.flatMap_singleton, Utf8.encodeChar_of_lt hb hchar]
    exact .plain hplain
  · have hb := b.toNat_lt
    obtain ⟨high, hhigh, hhighPlain, hhighRead⟩ := upperDigit_read (n := b.toNat / 16) (by omega)
    obtain ⟨low, hlow, hlowPlain, hlowRead⟩ := upperDigit_read (n := b.toNat % 16) (by omega)
    have hpercent : Utf8.encodeChar '%' = [37] := by decide
    have hwritten : Utf8.encode (Percent.encodeByte b) = [37, high, low] := by
      simp only [Percent.encodeByte, Utf8.encode, List.flatMap_cons, List.flatMap_nil, hhigh, hlow,
        hpercent]
      rfl
    rw [hwritten]
    refine .percent ?_ hhighPlain hlowPlain
    rw [Percent.hexByte?, hhighRead, hlowRead]
    simp only [Option.bind_eq_bind, Option.bind_some, Nat.div_add_mod', UInt8.ofNat_toNat]
    rfl

/-- What is written for a byte is read as it, whatever comes after. -/
lemma Writes.decode {b : UInt8} {bs : List UInt8} (h : Writes b bs) (rest : List UInt8) :
    Percent.decode (bs.map plusToSpace ++ rest) = b :: Percent.decode rest := by
  have plain {d : UInt8} (hd : isPlain d) : plusToSpace d = d := if_neg (ne_of_isPlain hd).2.2.1
  cases h with
  | space => exact Percent.decode_cons (by decide) rest
  | plain h =>
    rw [List.map_singleton, plain h]
    exact Percent.decode_cons (ne_of_isPlain h).1 rest
  | percent h hhigh hlow =>
    have hmap : [37, _, _].map plusToSpace = [37, _, _] :=
      congrArg₂ (fun a b => [37, a, b]) (plain hhigh) (plain hlow)
    rw [hmap]
    exact Percent.decode_digits h rest

/-- Nothing that separates is written for a byte. -/
lemma Writes.ne {b d : UInt8} {bs : List UInt8} (h : Writes b bs) (hd : d ∈ bs) :
    d ≠ 38 ∧ d ≠ 61 := by
  have plain {d : UInt8} (hd : isPlain d) : d ≠ 38 ∧ d ≠ 61 :=
    ⟨(ne_of_isPlain hd).2.1, (ne_of_isPlain hd).2.2.2⟩
  cases h with
  | space =>
    obtain rfl := List.mem_singleton.1 hd
    decide
  | plain h => exact List.mem_singleton.1 hd ▸ plain h
  | percent h hhigh hlow =>
    simp only [List.mem_cons, List.not_mem_nil, or_false] at hd
    obtain rfl | rfl | rfl := hd
    · decide
    · exact plain hhigh
    · exact plain hlow

variable (s : String) (f : String × String) {bs : List UInt8}

lemma encode_encodePart : Utf8.encode (encodePart s) =
    (Utf8.ofString s).flatMap fun b => Utf8.encode (encodeByte b) := List.flatMap_assoc

lemma decodePart_encodePart : decodePart (Utf8.encode (encodePart s)) = s := by
  have hbytes (bs : List UInt8) : Percent.decode
      ((bs.flatMap fun b => Utf8.encode (encodeByte b)).map plusToSpace) = bs := by
    induction bs with
    | nil => rfl
    | cons b bs ih =>
      rw [List.flatMap_cons, List.map_append, (writes_encodeByte b).decode, ih]
  rw [decodePart, encode_encodePart, hbytes, Utf8.toStringLossy_ofString]

lemma ne_of_mem_encodePart {d : UInt8} (hd : d ∈ Utf8.encode (encodePart s)) :
    d ≠ 38 ∧ d ≠ 61 := by
  rw [encode_encodePart] at hd
  obtain ⟨b, -, hd⟩ := List.mem_flatMap.1 hd
  exact (writes_encodeByte b).ne hd

lemma encode_encodeField : Utf8.encode (encodeField f) =
    Utf8.encode (encodePart f.1) ++ 61 :: Utf8.encode (encodePart f.2) := by
  rw [encodeField, Utf8.encode_append]
  rfl

lemma decodeField_encodeField : decodeField (Utf8.encode (encodeField f)) = f := by
  have hname : ∀ d ∈ Utf8.encode (encodePart f.1), decide (d ≠ 61) = true :=
    fun d hd => decide_eq_true (ne_of_mem_encodePart f.1 hd).2
  rw [encode_encodeField, decodeField, List.takeWhile_append_of_pos hname,
    List.dropWhile_append_of_pos hname]
  simp [decodePart_encodePart]

lemma ne_of_mem_encodeField {d : UInt8} (hd : d ∈ Utf8.encode (encodeField f)) : d ≠ 38 := by
  rw [encode_encodeField, List.mem_append, List.mem_cons] at hd
  obtain hd | rfl | hd := hd
  · exact (ne_of_mem_encodePart f.1 hd).1
  · decide
  · exact (ne_of_mem_encodePart f.2 hd).1

lemma encodeField_ne_nil : Utf8.encode (encodeField f) ≠ [] := by
  rw [encode_encodeField]
  exact List.append_ne_nil_of_right_ne_nil _ (List.cons_ne_nil _ _)

lemma splitOn_eq (separator : UInt8) (bs : List UInt8) :
    splitOn separator bs = bs.splitOn separator := by
  induction bs with
  | nil => rfl
  | cons b bs ih =>
    have hcons : (b :: bs).splitOn separator = if b == separator then [] :: bs.splitOn separator
        else (bs.splitOn separator).modifyHead (b :: ·) :=
      List.splitOnP_cons_eq_if_modifyHead b bs
    rw [splitOn, ih, hcons]
    by_cases hb : b = separator
    · rw [if_pos hb, if_pos (beq_iff_eq.2 hb)]
    · rw [if_neg hb, if_neg (mt beq_iff_eq.1 hb)]
      cases hparts : bs.splitOn separator with
      | nil => exact absurd hparts (List.splitOnP_ne_nil _ _)
      | cons part parts => rfl

lemma encode_intercalate (parts : List (List Char)) : Utf8.encode (['&'].intercalate parts) =
    [38].intercalate (parts.map Utf8.encode) := by
  induction parts with
  | nil => rfl
  | cons part parts ih =>
    cases parts with
    | nil => simp
    | cons next parts =>
      simp only [List.map_cons, List.intercalate_cons_cons, Utf8.encode_append] at ih ⊢
      rw [ih]
      rfl

theorem decode_encode (fields : List (String × String)) :
    decode (Utf8.ofString (encode fields)) = fields := by
  have hread : (fields.map encodeField).map Utf8.encode =
      fields.map fun f => Utf8.encode (encodeField f) := by
    rw [List.map_map]
    rfl
  have hfields : (fields.map fun f => Utf8.encode (encodeField f)).map decodeField = fields := by
    rw [List.map_map]
    exact (List.map_congr_left fun f _ => decodeField_encodeField f).trans (List.map_id _)
  have hseparate : ∀ bs ∈ fields.map fun f => Utf8.encode (encodeField f), 38 ∉ bs := by
    rintro _ hbs h
    obtain ⟨f, -, rfl⟩ := List.mem_map.1 hbs
    exact ne_of_mem_encodeField f h rfl
  have hkept : (fields.map fun f => Utf8.encode (encodeField f)).filter (!·.isEmpty) =
      fields.map fun f => Utf8.encode (encodeField f) := by
    refine List.filter_eq_self.2 fun bs hbs => ?_
    obtain ⟨f, -, rfl⟩ := List.mem_map.1 hbs
    simpa using encodeField_ne_nil f
  rw [decode, encode, Utf8.ofString, String.toList_ofList, encode_intercalate, hread, splitOn_eq]
  cases fields with
  | nil => rfl
  | cons f fields =>
    rw [List.splitOn_intercalate 38 hseparate (List.cons_ne_nil _ _), hkept, hfields]

end Form

end Http

end Parley
