import Parley.Text.Ranges
import Parley.Text.Utf8

/-!
# The UTF-8 forms of a set of characters

`byteSequences` says which bytes the characters of a set are written with: a list of sequences of
ranges of bytes, so that a character is in the set when its bytes are in the ranges of one of the
sequences, one after the other. Each range of code points is cut, by `cut?`, where the number of
bytes changes and where a range of bytes would not be full.
-/

namespace Parley.Text

/-- Inclusive. -/
abbrev ByteRange := UInt8 × UInt8

namespace Ranges

/-- The last code point of the first part, if the range has to be cut. In a range that need not be,
the bytes at each position may be chosen by themselves. -/
def cut? (lo hi : Nat) : Option Nat :=
  ([0x7f, 0x7ff, 0xffff].find? fun last => lo ≤ last && last < hi).or
    (if hi ≤ 0x7f then none else [0x40, 0x1000, 0x40000].findSome? fun block =>
      if lo / block = hi / block then none
      else if lo % block ≠ 0 then some (lo / block * block + (block - 1))
      else if hi % block ≠ block - 1 then some (hi / block * block - 1)
      else none)

theorem cut?_bounds {lo hi e : Nat} (hle : lo ≤ hi) (h : cut? lo hi = some e) :
    lo ≤ e ∧ e < hi := by
  rcases Option.or_eq_some_iff.1 h with h | ⟨-, h⟩
  · simpa using List.find?_some h
  · split at h
    · simp at h
    · obtain ⟨block, hmem, h⟩ := List.exists_of_findSome?_eq_some h
      have hpos : 0 < block := by
        simp only [List.mem_cons, List.not_mem_nil, or_false] at hmem
        omega
      split at h
      · simp at h
      · next hne =>
        have hlt : lo / block < hi / block :=
          Nat.lt_of_le_of_ne (Nat.div_le_div_right hle) hne
        have hlo := Nat.div_add_mod' lo block
        have hhi := Nat.div_add_mod' hi block
        have hmod := Nat.mod_lt lo hpos
        have hblock := Nat.mul_le_mul_right block hlt
        rw [Nat.succ_mul] at hblock
        split at h
        · injection h
          omega
        · split at h
          · injection h
            omega
          · simp at h

/-- The bytes of a character. -/
def codeBytes (n : Nat) : List UInt8 := Utf8.encodeChar (Char.ofNat n)

/-- For the code points from `lo` to `hi`, none of them a surrogate. -/
def sequencesFrom (lo hi : Nat) : List (List ByteRange) :=
  if hle : lo ≤ hi then
    match h : cut? lo hi with
    | some e =>
      have := cut?_bounds hle h
      sequencesFrom lo e ++ sequencesFrom (e + 1) hi
    | none => [(codeBytes lo).zip (codeBytes hi)]
  else []
termination_by hi - lo

/-- In the order of the code points. -/
def byteSequences (r : Ranges) : List (List ByteRange) :=
  (scalars r).flatMap fun (lo, hi) => sequencesFrom lo hi

end Ranges

end Parley.Text
