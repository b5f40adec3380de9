import Parley.Proofs.Text.Digits
import Parley.Proofs.Time.Calendar

/-!
# Points in time read back

A point in time is read back from its text (`parse?_text`) if its year is in the calendar and its
nanoseconds are those of a second, which may be a leap second.
-/

namespace Parley

namespace Timestamp

open Text (isDigit padded)

/-- A point in time that a clock can show: the year is in the calendar, and the nanoseconds are
those of a second, or of a leap second at the end of a minute. -/
structure Proper (t : Timestamp) : Prop where
  first : -lastYear - 1 ≤ (Date.ofDays (t.seconds / 86400)).year
  last : (Date.ofDays (t.seconds / 86400)).year ≤ lastYear
  nanos : t.nanos < 1000000000 ∨ t.nanos < 2000000000 ∧ t.seconds % 60 = 59

variable {ds rest : List Char} {most n : Nat}

lemma skipBlanks_digits (hds : ∀ c ∈ ds, isDigit c) (hne : ds ≠ []) :
    skipBlanks (ds ++ rest) = ds ++ rest := by
  cases ds with
  | nil => exact absurd rfl hne
  | cons c ds =>
    have hc := (Text.plain_of_isDigit (hds c (.head _))).1
    exact List.dropWhile_cons_of_neg (by simp [hc])

/-- Digits are read up to the end of them, or as many as there may be. -/
lemma number?_digits (hds : ∀ c ∈ ds, isDigit c) (hne : ds ≠ [])
    (hend : (ds ++ rest).take most = ds ∨
      ds.length ≤ most ∧ ∀ c, rest.head? = some c → ¬isDigit c) :
    number? most (ds ++ rest) =
      (Text.decimal? (Text.powerOfTen 18) ds).map fun n => (n, rest) := by
  have htake : ((ds ++ rest).take most).takeWhile isDigit = ds := by
    obtain hfull | ⟨hle, hrest⟩ := hend
    · rw [hfull, List.takeWhile_eq_self_iff.2 hds]
    · rw [List.take_append, List.take_of_length_le hle, List.takeWhile_append_of_pos hds]
      have hnone : (rest.take (most - ds.length)).takeWhile isDigit = [] := by
        cases rest with
        | nil => rw [List.take_nil, List.takeWhile_nil]
        | cons c rest =>
          cases most - ds.length with
          | zero => rfl
          | succ k => exact List.takeWhile_cons_of_neg (hrest c rfl)
      rw [hnone, List.append_nil]
  rw [number?, skipBlanks_digits hds hne, htake, if_neg (by simpa using hne),
    List.drop_left]

lemma number?_padded {width : Nat} (hwidth : 0 < width) (hn : n < 10 ^ width)
    (hlimit : n ≤ Text.powerOfTen 18) :
    number? width ((padded width n).toList ++ rest) = some (n, rest) := by
  rw [number?_digits Text.isDigit_of_mem_padded (Text.padded_ne_nil width n)
    (.inl (List.take_left' (Text.length_padded hwidth hn))), Text.decimal?_padded hlimit]
  rfl

/-- A field of two digits. -/
lemma number?_two (hn : n < 100) : number? 2 ((padded 2 n).toList ++ rest) = some (n, rest) :=
  number?_padded (by decide) hn (Nat.le_of_lt (Nat.lt_trans hn (by decide)))

lemma year?_digits (hds : ∀ c ∈ ds, isDigit c) (hne : ds ≠ []) :
    year? (ds ++ rest) = (number? 4 (ds ++ rest)).map fun (n, rest) => ((n : Int), rest) := by
  cases ds with
  | nil => exact absurd rfl hne
  | cons c ds =>
    obtain ⟨-, hminus, hplus⟩ := Text.plain_of_isDigit (hds c (.head _))
    rw [year?, skipBlanks_digits hds hne, List.cons_append]
    split
    · rename_i h
      exact absurd (List.cons.inj h).1 hminus
    · rename_i h
      exact absurd (List.cons.inj h).1 hplus
    · rfl

lemma signed?_padded {width : Nat} (hn : n ≤ Text.powerOfTen 18) :
    year?.signed? ((padded width n).toList ++ '-' :: rest) = some (n, '-' :: rest) := by
  have hdigits : ∀ c ∈ (padded width n).toList, isDigit c := Text.isDigit_of_mem_padded
  have hne := Text.padded_ne_nil width n
  have hnumber : number? ((padded width n).toList ++ '-' :: rest).length
      ((padded width n).toList ++ '-' :: rest) = some (n, '-' :: rest) := by
    rw [number?_digits hdigits hne (.inr ⟨by simp, fun c hc => ?_⟩), Text.decimal?_padded hn]
    · rfl
    · obtain rfl := Option.some.inj hc
      decide
  rw [year?.signed?, if_pos, hnumber]
  cases hpadded : (padded width n).toList with
  | nil => exact absurd hpadded hne
  | cons c ds => exact hdigits c (hpadded ▸ .head _)

lemma skipBlanks_cons {c : Char} (h : Text.isBlank c = false) :
    skipBlanks (c :: rest) = c :: rest :=
  List.dropWhile_cons_of_neg (by simp [h])

lemma year?_signed :
    year? ('-' :: rest) = (year?.signed? rest).map (fun (n, rest) => (-(n : Int), rest)) ∧
      year? ('+' :: rest) = (year?.signed? rest).map (fun (n, rest) => ((n : Int), rest)) := by
  rw [year?, skipBlanks_cons (by decide), year?, skipBlanks_cons (by decide)]
  exact ⟨rfl, rfl⟩

lemma year?_text {y : Int} (hfirst : -lastYear - 1 ≤ y) (hlast : y ≤ lastYear) :
    year? ((yearText y).toList ++ '-' :: rest) = some (y, '-' :: rest) := by
  rw [lastYear] at hfirst hlast
  have hlimit : 262143 ≤ Text.powerOfTen 18 := by decide
  have hsigned : year?.signed? ((padded 4 y.natAbs).toList ++ '-' :: rest) =
      some (y.natAbs, '-' :: rest) := signed?_padded (by omega)
  unfold yearText
  split_ifs with hrange hneg
  · have hpow : y.toNat < 10 ^ 4 := by omega
    rw [year?_digits Text.isDigit_of_mem_padded (Text.padded_ne_nil 4 y.toNat),
      number?_padded (by decide) hpow (by omega)]
    exact congrArg some (Prod.ext (Int.toNat_of_nonneg hrange.1) rfl)
  · have hyear : -(y.natAbs : Int) = y := by omega
    rw [String.toList_append, show "-".toList = ['-'] from rfl, List.singleton_append,
      List.cons_append, year?_signed.1, hsigned]
    exact congrArg some (Prod.ext hyear rfl)
  · have hyear : (y.natAbs : Int) = y := by omega
    rw [String.toList_append, show "+".toList = ['+'] from rfl, List.singleton_append,
      List.cons_append, year?_signed.2, hsigned]
    exact congrArg some (Prod.ext hyear rfl)

lemma fraction?_padded {width : Nat} (hwidth : 0 < width) (hnine : width ≤ 9)
    (hn : n < 10 ^ width) :
    fraction? (("." ++ padded width n).toList ++ 'Z' :: rest) =
      some (n * Text.powerOfTen (9 - width), 'Z' :: rest) := by
  have hlength := Text.length_padded hwidth hn
  have hlimit : n ≤ Text.powerOfTen 9 := by
    have hpow : 10 ^ width ≤ 10 ^ 9 := Nat.pow_le_pow_right (by decide) hnine
    have hten : Text.powerOfTen 9 = 10 ^ 9 := by decide
    omega
  have hdigits : ((padded width n).toList ++ 'Z' :: rest).takeWhile isDigit =
      (padded width n).toList := by
    rw [List.takeWhile_append_of_pos Text.isDigit_of_mem_padded,
      List.takeWhile_cons_of_neg (by decide), List.append_nil]
  have hne : ¬(padded width n).toList.isEmpty := by simpa using Text.padded_ne_nil width n
  have hnine' : (padded width n).toList.take 9 = (padded width n).toList :=
    List.take_of_length_le (Nat.le_trans (Nat.le_of_eq hlength) hnine)
  rw [String.toList_append, show ".".toList = ['.'] from rfl, List.singleton_append,
    List.cons_append, fraction?]
  simp only [hdigits, if_neg hne, hnine', Text.decimal?_padded hlimit, hlength, Option.map_some,
    List.drop_left' hlength]

lemma fraction?_text (hn : n < 1000000000) :
    fraction? ((fractionText n).toList ++ 'Z' :: rest) = some (n, 'Z' :: rest) := by
  unfold fractionText
  split_ifs with hzero hmillis hmicros
  · rw [hzero]
    rfl
  · have hvalue : n / 1000000 * Text.powerOfTen (9 - 3) = n := by
      have hten : Text.powerOfTen (9 - 3) = 1000000 := by decide
      rw [hten]
      omega
    rw [fraction?_padded (by decide) (by decide) (by omega), hvalue]
  · have hvalue : n / 1000 * Text.powerOfTen (9 - 6) = n := by
      have hten : Text.powerOfTen (9 - 6) = 1000 := by decide
      rw [hten]
      omega
    rw [fraction?_padded (by decide) (by decide) (by omega), hvalue]
  · rw [fraction?_padded (by decide) (by decide) hn]
    exact congrArg some (Prod.ext (Nat.mul_one n) rfl)

lemma mark?_cons {c : Char} (h : Text.isBlank c = false) : mark? c (c :: rest) = some rest := by
  rw [mark?, skipBlanks_cons h]
  exact if_pos rfl

/-- A date and a time of day as they are written. -/
def parts (date : Date) (hour minute second nanos : Nat) : List Char :=
  (yearText date.year).toList ++ '-' :: ((padded 2 date.month).toList ++
    '-' :: ((padded 2 date.day).toList ++ 'T' :: ((padded 2 hour).toList ++
    ':' :: ((padded 2 minute).toList ++ ':' :: ((padded 2 second).toList ++
    ((fractionText nanos).toList ++ ['Z']))))))

lemma toList_text (t : Timestamp) : t.text.toList =
    parts (.ofDays (t.seconds / 86400)) ((t.seconds % 86400).toNat / 3600)
      ((t.seconds % 86400).toNat / 60 % 60)
      ((t.seconds % 86400).toNat % 60 + if 1000000000 ≤ t.nanos then 1 else 0)
      (t.nanos % 1000000000) := by
  have hyphen : "-".toList = ['-'] := rfl
  have hcolon : ":".toList = [':'] := rfl
  simp only [text, String.toList_append, List.append_assoc, hyphen, hcolon,
    show "T".toList = ['T'] from rfl, show "Z".toList = ['Z'] from rfl, List.cons_append,
    List.nil_append, parts]

lemma ofChars?_parts {date : Date} {hour minute second nanos : Nat} {seconds : Int}
    (hfirst : -lastYear - 1 ≤ date.year) (hlast : date.year ≤ lastYear) (hvalid : date.valid)
    (hhour : hour < 24) (hminute : minute < 60) (hsecond : second ≤ 60)
    (hnanos : nanos < 1000000000)
    (hseconds : seconds = date.toDays * 86400 + (hour * 3600 + minute * 60 + min second 59 : Nat))
    (hdays : (Date.ofDays (seconds / 86400)).valid) :
    ofChars? (parts date hour minute second nanos) =
      some ⟨seconds, if second = 60 then nanos + 1000000000 else nanos⟩ := by
  have hfields := hvalid
  simp only [Date.valid, Bool.and_eq_true, decide_eq_true_eq] at hfields
  have hmonth : date.month < 100 := by omega
  have hday : date.day < 100 := by
    have hdays : daysInMonth date.year date.month ≤ 31 := by
      unfold daysInMonth
      split_ifs <;> decide
    omega
  have hoffset : offset? ['Z'] = some (0, []) := by
    rw [offset?, skipBlanks_cons (by decide)]
    rfl
  rw [ofChars?, parts]
  refine Option.bind_eq_some_iff.2 ⟨_, year?_text hfirst hlast, ?_⟩
  refine Option.bind_eq_some_iff.2 ⟨_, mark?_cons (by decide), ?_⟩
  refine Option.bind_eq_some_iff.2 ⟨_, number?_two hmonth, ?_⟩
  refine Option.bind_eq_some_iff.2 ⟨_, mark?_cons (by decide), ?_⟩
  refine Option.bind_eq_some_iff.2 ⟨_, number?_two hday, ?_⟩
  refine Option.bind_eq_some_iff.2 ⟨_, rfl, ?_⟩
  refine Option.bind_eq_some_iff.2 ⟨_, number?_two (Nat.lt_trans hhour (by decide)), ?_⟩
  refine Option.bind_eq_some_iff.2 ⟨_, mark?_cons (by decide), ?_⟩
  refine Option.bind_eq_some_iff.2 ⟨_, number?_two (Nat.lt_trans hminute (by decide)), ?_⟩
  refine Option.bind_eq_some_iff.2 ⟨_, mark?_cons (by decide), ?_⟩
  refine Option.bind_eq_some_iff.2 ⟨_, number?_two (Nat.lt_of_le_of_lt hsecond (by decide)), ?_⟩
  refine Option.bind_eq_some_iff.2 ⟨_, fraction?_text hnanos, ?_⟩
  refine Option.bind_eq_some_iff.2 ⟨_, hoffset, ?_⟩
  dsimp only
  rw [if_pos ⟨hvalid, hhour, hminute, hsecond, rfl⟩, Int.zero_mul, Int.sub_zero, ← hseconds,
    if_pos hdays]

theorem parse?_text {t : Timestamp} (h : t.Proper) : parse? t.text = some t := by
  obtain ⟨hfirst, hlast, hnanos⟩ := h
  have hvalid := valid_ofDays hfirst hlast
  have hdays := toDays_ofDays (t.seconds / 86400)
  rw [parse?, toList_text]
  have hclock : 0 ≤ t.seconds % 86400 ∧ t.seconds % 86400 < 86400 :=
    ⟨Int.emod_nonneg _ (by decide), Int.emod_lt_of_pos _ (by decide)⟩
  by_cases hleap : 1000000000 ≤ t.nanos
  · rw [if_pos hleap]
    have hsixty : (t.seconds % 86400).toNat % 60 + 1 = 60 := by omega
    have hseconds : t.seconds = (Date.ofDays (t.seconds / 86400)).toDays * 86400 +
        ((t.seconds % 86400).toNat / 3600 * 3600 + (t.seconds % 86400).toNat / 60 % 60 * 60 +
          min ((t.seconds % 86400).toNat % 60 + 1) 59 : Nat) := by
      rw [hdays]
      omega
    have hnanos' : t.nanos % 1000000000 + 1000000000 = t.nanos := by omega
    rw [ofChars?_parts hfirst hlast hvalid (by omega) (by omega) (by omega) (by omega) hseconds
      hvalid, if_pos hsixty, hnanos']
  · rw [if_neg hleap]
    have hsixty : (t.seconds % 86400).toNat % 60 + 0 ≠ 60 := by omega
    have hseconds : t.seconds = (Date.ofDays (t.seconds / 86400)).toDays * 86400 +
        ((t.seconds % 86400).toNat / 3600 * 3600 + (t.seconds % 86400).toNat / 60 % 60 * 60 +
          min ((t.seconds % 86400).toNat % 60 + 0) 59 : Nat) := by
      rw [hdays]
      omega
    have hnanos' : t.nanos % 1000000000 = t.nanos := by omega
    rw [ofChars?_parts hfirst hlast hvalid (by omega) (by omega) (by omega) (by omega) hseconds
      hvalid, if_neg hsixty, hnanos']

end Timestamp

end Parley
