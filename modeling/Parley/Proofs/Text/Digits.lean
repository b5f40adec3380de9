import Mathlib.Algebra.Group.Nat.Defs
import Mathlib.Data.List.TakeWhile
import Mathlib.Tactic.Lemma
import Parley.Id
import Parley.Text.Blank

/-!
# Digits read back

Numbers are written with a fixed width (`toDigits`) or with at least some width (`padded`). Reading
the digits gives the number back, and so an identifier is read back from its text (`parse?_text`).
-/

namespace Parley

/-- Going through a list, where each element goes well. -/
lemma mapM_eq_pure {m : Type → Type} [Monad m] [LawfulMonad m] {α β : Type} {f : α → m β}
    {g : α → β} {as : List α} (h : ∀ a ∈ as, f a = pure (g a)) : as.mapM f = pure (as.map g) := by
  induction as with
  | nil => rfl
  | cons a as ih =>
    obtain ⟨ha, has⟩ := List.forall_mem_cons.1 h
    rw [List.mapM_cons, ha, pure_bind, ih has, pure_bind, List.map_cons]

namespace Text

lemma length_toDigits (base width n : Nat) : (toDigits base width n).length = width := by
  induction width generalizing n with
  | zero => rfl
  | succ width ih => rw [toDigits, List.length_append, ih, List.length_singleton]

lemma lt_of_mem_toDigits {base width n d : Nat} (hbase : 0 < base)
    (hd : d ∈ toDigits base width n) : d < base := by
  induction width generalizing n with
  | zero => cases hd
  | succ width ih =>
    obtain hd | hd := List.mem_append.1 hd
    · exact ih hd
    · exact List.mem_singleton.1 hd ▸ Nat.mod_lt n hbase

theorem ofDigits_toDigits (base width n : Nat) :
    ofDigits base (toDigits base width n) = n % base ^ width := by
  induction width generalizing n with
  | zero => exact (Nat.mod_one n).symm
  | succ width ih =>
    have hlast : ofDigits base (toDigits base width (n / base) ++ [n % base]) =
        ofDigits base (toDigits base width (n / base)) * base + n % base := List.foldl_append
    rw [toDigits, hlast, ih, Nat.pow_succ', Nat.mod_mul, Nat.mul_comm, Nat.add_comm]

lemma hexDigit?_digitChar {d : Nat} (h : d < 16) : hexDigit? (digitChar d) = some d := by
  revert d
  decide

lemma digitChar_ne_hyphen {d : Nat} (h : d < 16) : digitChar d ≠ '-' := by
  revert d
  decide

lemma digit?_of_isDigit {c : Char} (h : isDigit c) : digit? c = some (c.toNat - '0'.toNat) := by
  unfold isDigit at h
  unfold digit? at h ⊢
  split at h
  · rename_i hc
    exact if_pos hc
  · cases h

lemma toNat_of_isDigit {c : Char} (h : isDigit c) : 48 ≤ c.toNat ∧ c.toNat < 58 := by
  unfold isDigit digit? at h
  split at h
  · rename_i hc
    rw [Bool.and_eq_true, decide_eq_true_eq, decide_eq_true_eq, Char.le_def, Char.le_def] at hc
    exact ⟨hc.1, Nat.lt_succ_of_le hc.2⟩
  · cases h

/-- A digit is neither blank nor a sign. -/
lemma plain_of_isDigit {c : Char} (h : isDigit c) : isBlank c = false ∧ c ≠ '-' ∧ c ≠ '+' := by
  obtain ⟨hfirst, hlast⟩ := toNat_of_isDigit h
  have hall : ∀ n < 58, 48 ≤ n →
      isBlank (Char.ofNat n) = false ∧ Char.ofNat n ≠ '-' ∧ Char.ofNat n ≠ '+' := by decide
  have hc := hall c.toNat hlast hfirst
  rwa [Char.ofNat_toNat] at hc

lemma isDigit_of_mem_toDigits {n : Nat} {c : Char} (h : c ∈ Nat.toDigits 10 n) : isDigit c := by
  have hdigit := Nat.isDigit_of_mem_toDigits (by decide) (by decide) h
  rw [Char.isDigit, Bool.and_eq_true, decide_eq_true_eq, decide_eq_true_eq] at hdigit
  exact congrArg Option.isSome (if_pos (by simpa [Char.le_def] using hdigit) :
    digit? c = some (c.toNat - '0'.toNat))

lemma toList_padded (width n : Nat) : (padded width n).toList =
    List.replicate (width - (Nat.toDigits 10 n).length) '0' ++ Nat.toDigits 10 n := by
  rw [padded, Nat.toString_eq_ofList_toDigits, String.length_ofList, String.toList_append,
    String.toList_ofList, String.toList_ofList]

lemma isDigit_of_mem_padded {width n : Nat} : ∀ c ∈ (padded width n).toList, isDigit c := by
  intro c hc
  rw [toList_padded] at hc
  obtain hc | hc := List.mem_append.1 hc
  · exact (List.eq_of_mem_replicate hc) ▸ rfl
  · exact isDigit_of_mem_toDigits hc

lemma padded_ne_nil (width n : Nat) : (padded width n).toList ≠ [] := by
  rw [toList_padded]
  exact List.append_ne_nil_of_right_ne_nil _ Nat.toDigits_ne_nil

lemma length_padded {width n : Nat} (hwidth : 0 < width) (hn : n < 10 ^ width) :
    (padded width n).toList.length = width := by
  have hle := (Nat.length_toDigits_le_iff (by decide) hwidth).2 hn
  rw [toList_padded, List.length_append, List.length_replicate, Nat.sub_add_cancel hle]

theorem decimal?_padded {limit n : Nat} (hn : n ≤ limit) (width : Nat) :
    decimal? limit (padded width n).toList = some n := by
  have hmapM : (padded width n).toList.mapM digit? =
      some ((padded width n).toList.map fun c => c.toNat - '0'.toNat) :=
    mapM_eq_pure fun c hc => digit?_of_isDigit (isDigit_of_mem_padded c hc)
  have hzeros (k : Nat) : (List.replicate k '0').foldl
      (fun n c => 10 * n + (c.toNat - '0'.toNat)) 0 = 0 := by
    induction k with
    | zero => rfl
    | succ k ih => exact ih
  have hvalue : ofDigits 10 ((padded width n).toList.map fun c => c.toNat - '0'.toNat) = n := by
    have hstep : (fun (n d : Nat) => n * 10 + d) = fun n d => 10 * n + d :=
      funext fun n => funext fun d => by rw [Nat.mul_comm]
    rw [ofDigits, hstep, List.foldl_map, toList_padded, List.foldl_append, hzeros,
      ← Nat.ofDigitChars_eq_foldl, Nat.ofDigitChars_ten_toDigits]
  have hne : ¬((padded width n).toList.map fun c => c.toNat - '0'.toNat).isEmpty := by
    simpa using padded_ne_nil width n
  rw [decimal?, hmapM, Option.bind_eq_bind, Option.bind_some, if_neg hne, hvalue]
  exact if_pos hn

/-- A decimal number is at most the limit that it was read with. -/
lemma decimal?_le {limit n : Nat} {cs : List Char} (h : decimal? limit cs = some n) :
    n ≤ limit := by
  obtain ⟨ds, -, h⟩ := Option.bind_eq_some_iff.1 h
  split at h
  · cases h
  · obtain ⟨hle, hn⟩ := Option.ite_none_right_eq_some.1 h
    cases hn
    exact hle

lemma unsigned?_le {limit n : Nat} {cs : List Char} (h : unsigned? limit cs = some n) :
    n ≤ limit := by
  unfold unsigned? at h
  split at h <;> exact decimal?_le h

lemma padded_zero (n : Nat) : padded 0 n = toString n := by
  rw [padded, Nat.zero_sub]
  exact String.empty_append

/-- A number is read back from its text. -/
theorem unsigned?_toString {limit n : Nat} (hn : n ≤ limit) :
    unsigned? limit (toString n).toList = some n := by
  have hdigits : ∀ c ∈ (padded 0 n).toList, isDigit c := isDigit_of_mem_padded
  have hread : decimal? limit (padded 0 n).toList = some n := decimal?_padded hn 0
  rw [padded_zero] at hdigits hread
  unfold unsigned?
  split
  · next cs hcs =>
    rw [hcs] at hdigits
    exact absurd rfl (plain_of_isDigit (hdigits '+' List.mem_cons_self)).2.2
  · exact hread

end Text

namespace Id

lemma hexDigits_digits (i : Id) :
    i.digits.mapM Text.hexDigit? = some (Text.toDigits 16 32 i.bits.toNat) := by
  have hdigit : ∀ d ∈ Text.toDigits 16 32 i.bits.toNat,
      (Text.hexDigit? ∘ Text.digitChar) d = some d :=
    fun d hd => Text.hexDigit?_digitChar (Text.lt_of_mem_toDigits (by decide) hd)
  rw [digits, List.mapM_map]
  exact (mapM_eq_pure hdigit).trans (congrArg some (List.map_id _))

lemma hyphen_notMem_digits (i : Id) : '-' ∉ i.digits := by
  intro h
  obtain ⟨d, hd, hchar⟩ := List.mem_map.1 h
  exact Text.digitChar_ne_hyphen (Text.lt_of_mem_toDigits (by decide) hd) hchar

lemma length_digits (i : Id) : i.digits.length = 32 := by
  rw [digits, List.length_map, Text.length_toDigits]

lemma hyphenate_filter {ds : List Char} (h : '-' ∉ ds) :
    (hyphenate ds).filter (· ≠ '-') = ds := by
  have hkept {part : List Char} (hpart : part.Sublist ds) : part.filter (· ≠ '-') = part := by
    refine List.filter_eq_self.2 fun c hc => decide_eq_true ?_
    rintro rfl
    exact h (hpart.subset hc)
  have hmiddle (k : Nat) : ((ds.drop k).take 4).filter (· ≠ '-') = (ds.drop k).take 4 :=
    hkept ((List.take_sublist ..).trans (List.drop_sublist ..))
  have hjoin (k : Nat) : (ds.drop k).take 4 ++ ds.drop (k + 4) = ds.drop k := by
    rw [← List.drop_drop, List.take_append_drop]
  simp only [hyphenate, List.filter_append, List.filter_cons, ne_eq, not_true_eq_false,
    decide_false, Bool.false_eq_true, if_false]
  simp only [← ne_eq, hmiddle, hkept (List.take_sublist 8 ds), hkept (List.drop_sublist 20 ds),
    List.append_assoc, hjoin, List.take_append_drop]

lemma length_text (i : Id) : i.text.toList.length = 36 := by
  rw [text, String.toList_ofList]
  simp [hyphenate, length_digits]

theorem parse?_text (i : Id) : parse? i.text = some i := by
  have hdigits : ofDigits? i.digits = some i := by
    rw [ofDigits?, hexDigits_digits, Option.bind_eq_bind, Option.bind_some, Text.length_toDigits,
      if_pos rfl, Text.ofDigits_toDigits]
    have hbits : i.bits.toNat % 16 ^ 32 = i.bits.toNat := Nat.mod_eq_of_lt i.bits.isLt
    rw [hbits, ofNat, BitVec.ofNat_toNat, BitVec.setWidth_eq]
  have hhyphens : ofHyphenated? (hyphenate i.digits) = some i := by
    rw [ofHyphenated?, hyphenate_filter i.hyphen_notMem_digits, if_pos rfl, hdigits]
  rw [parse?, ofChars?, length_text, text, String.toList_ofList]
  exact hhyphens

lemma mem_hyphenate {ds : List Char} {c : Char} (h : c ∈ hyphenate ds) : c = '-' ∨ c ∈ ds := by
  have hpart {k n : Nat} (h : c ∈ (ds.drop k).take n) : c ∈ ds :=
    List.mem_of_mem_drop (List.mem_of_mem_take h)
  simp only [hyphenate, List.mem_append, List.mem_cons] at h
  obtain (((h | h | h) | h | h) | h | h) | h | h := h
  · exact .inr (List.mem_of_mem_take h)
  · exact .inl h
  · exact .inr (hpart h)
  · exact .inl h
  · exact .inr (hpart h)
  · exact .inl h
  · exact .inr (hpart h)
  · exact .inl h
  · exact .inr (List.mem_of_mem_drop h)

/-- An identifier as text has no blanks, nothing that parts a path and nothing to be decoded. -/
lemma text_plain (i : Id) {c : Char} (h : c ∈ i.text.toList) :
    ¬Text.isBlank c ∧ c.toNat < 127 ∧ c ≠ '/' ∧ c ≠ '%' := by
  have hdigits : ∀ d < 16, ¬Text.isBlank (Text.digitChar d) ∧ (Text.digitChar d).toNat < 127 ∧
      Text.digitChar d ≠ '/' ∧ Text.digitChar d ≠ '%' := by decide
  rw [text, String.toList_ofList] at h
  obtain rfl | hc := mem_hyphenate h
  · decide
  · obtain ⟨d, hd, rfl⟩ := List.mem_map.1 hc
    exact hdigits d (Text.lt_of_mem_toDigits (by decide) hd)

end Id

end Parley
