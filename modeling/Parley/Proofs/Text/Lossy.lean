import Mathlib.Logic.Basic
import Parley.Proofs.Text.Utf8

/-!
# Lossy text of bytes in parts

The lossy text of some bytes is that of a first part followed by that of the rest, unless the cut is
inside a character (`decodeLossy_append`). If it is, both halves of the character are malformed by
themselves, and the two texts are longer together (`length_decodeLossy_append_lt`).
-/

namespace Parley.Text.Utf8

variable {held bs xs ys : List UInt8} {b : UInt8}

/-- The lossy text of what follows a character that was begun, with that character. -/
def lossyFrom (held bs : List UInt8) : List Char :=
  (scan held bs).1.map Piece.lossy ++ if (scan held bs).2.isEmpty then [] else [replacement]

/-- A character that was begun goes on with what follows it. -/
def GoesOn (held : List UInt8) : List UInt8 → Prop
  | [] => False
  | b :: _ => held ≠ [] ∧ form (held ++ [b]) ≠ .malformed

instance : Decidable (GoesOn held bs) :=
  match bs with
  | [] => isFalse id
  | b :: _ => inferInstanceAs (Decidable (held ≠ [] ∧ form (held ++ [b]) ≠ .malformed))

/-- A cut between some bytes and others is inside a character. -/
def Tears (xs ys : List UInt8) : Prop := GoesOn (scan [] xs).2 ys

instance : Decidable (Tears xs ys) := inferInstanceAs (Decidable (GoesOn _ _))

lemma GoesOn.ne_nil (h : GoesOn held bs) : held ≠ [] := by
  cases bs with
  | nil => exact False.elim h
  | cons => exact h.1

lemma lossyFrom_nil (bs : List UInt8) : lossyFrom [] bs = decodeLossy bs := rfl

lemma lossyFrom_cons (held bs : List UInt8) (b : UInt8) :
    lossyFrom held (b :: bs) =
      (step held b).1.map Piece.lossy ++ lossyFrom (step held b).2 bs := by
  rw [lossyFrom, scan_cons, List.map_append, List.append_assoc]
  rfl

/-- A character goes on with a continuation byte only. -/
lemma isContinuation_of_next (hheld : held ≠ []) (h : form (held ++ [b]) ≠ .malformed) :
    isContinuation b := by
  refine not_not.1 fun hb => h ?_
  have hsecond : ∀ a, ¬isSecond a b := fun a hs =>
    hb ((isContinuation_iff b).2 ((isSecond_iff a b).1 hs).2.1)
  rcases held with _ | ⟨x₀, _ | ⟨x₁, _ | ⟨x₂, _ | ⟨x₃, _ | ⟨_, _⟩⟩⟩⟩⟩
  · exact absurd rfl hheld
  · simp [form, hsecond]
  · simp [form, hb]
  · simp [form, hb]
  · rfl
  · rfl

/-- No character starts with a continuation byte. -/
lemma start_of_isContinuation (h : isContinuation b) : start b = ([.bad [b]], []) := by
  rw [isContinuation_iff] at h
  have hform : form [b] = .malformed := by
    simp only [form, UInt8.lt_iff_toNat_lt, UInt8.le_iff_toNat_le, UInt8.reduceToNat,
      Bool.and_eq_true, decide_eq_true_eq]
    rw [if_neg (by omega), if_neg (by omega)]
  rw [start, hform]

/-- A character that does not go on is malformed, and what follows it is read by itself. -/
lemma lossyFrom_of_not (h : ¬GoesOn held bs) :
    lossyFrom held bs = (if held.isEmpty then [] else [replacement]) ++ decodeLossy bs := by
  cases bs with
  | nil => simp [lossyFrom, scan, decodeLossy]
  | cons b bs =>
    obtain rfl | hheld := eq_or_ne held []
    · rfl
    · have hform : form (held ++ [b]) = .malformed := not_not.1 fun hnext => h ⟨hheld, hnext⟩
      have hstep : step held b = (.bad held :: (start b).1, (start b).2) := by
        cases held with
        | nil => exact absurd rfl hheld
        | cons => simp only [step, hform]
      rw [← lossyFrom_nil, lossyFrom_cons, lossyFrom_cons, hstep]
      simp [hheld, Piece.lossy, step]

lemma length_lossyFrom_of_not (h : ¬GoesOn held bs) :
    (lossyFrom held bs).length ≤ 1 + (decodeLossy bs).length := by
  rw [lossyFrom_of_not h, List.length_append]
  refine Nat.add_le_add_right ?_ _
  split_ifs <;> simp

/-- A character that was begun adds at most one to what is read without it, and less if it goes on.
-/
lemma length_lossyFrom (hheld : form held = .unfinished) (bs : List UInt8) :
    (lossyFrom held bs).length ≤ 1 + (decodeLossy bs).length ∧
      (GoesOn held bs → (lossyFrom held bs).length < 1 + (decodeLossy bs).length) := by
  induction bs generalizing held with
  | nil => exact ⟨length_lossyFrom_of_not id, False.elim⟩
  | cons b bs ih =>
    by_cases hgo : GoesOn held (b :: bs)
    · -- The next byte belongs to the character, and would be malformed by itself.
      obtain ⟨hne, hnext⟩ := hgo
      have hlone : (decodeLossy (b :: bs)).length = 1 + (decodeLossy bs).length := by
        rw [← lossyFrom_nil, lossyFrom_cons, step,
          start_of_isContinuation (isContinuation_of_next hne hnext), lossyFrom_nil,
          List.length_append]
        rfl
      have hless : (lossyFrom held (b :: bs)).length < 1 + (decodeLossy (b :: bs)).length := by
        rw [hlone, lossyFrom_cons]
        cases hform : form (held ++ [b]) with
        | char c =>
          rw [step_char hform, lossyFrom_nil, List.length_append]
          simp
        | unfinished =>
          rw [step_unfinished hform]
          have hrest := (ih hform).1
          simp only [List.map_nil, List.nil_append]
          omega
        | malformed => exact absurd hform hnext
      exact ⟨Nat.le_of_lt hless, fun _ => hless⟩
    · exact ⟨length_lossyFrom_of_not hgo, fun h => absurd h hgo⟩

lemma decodeLossy_append_eq (xs ys : List UInt8) :
    decodeLossy (xs ++ ys) =
      (scan [] xs).1.map Piece.lossy ++ lossyFrom (scan [] xs).2 ys := by
  rw [← lossyFrom_nil, lossyFrom, scan_append, List.map_append, List.append_assoc]
  rfl

/-- Bytes may be read in parts if the cut is not inside a character. -/
theorem decodeLossy_append (h : ¬Tears xs ys) :
    decodeLossy (xs ++ ys) = decodeLossy xs ++ decodeLossy ys := by
  rw [decodeLossy_append_eq, lossyFrom_of_not h, ← List.append_assoc]
  rfl

/-- Read in parts, a character with a cut inside it becomes more than one. -/
theorem length_decodeLossy_append_lt (h : Tears xs ys) :
    (decodeLossy (xs ++ ys)).length < (decodeLossy xs).length + (decodeLossy ys).length := by
  have hless := (length_lossyFrom (form_scan_nil xs) ys).2 h
  have hxs : (decodeLossy xs).length = ((scan [] xs).1.map Piece.lossy).length + 1 := by
    simp [decodeLossy, h.ne_nil]
  rw [decodeLossy_append_eq, List.length_append, hxs]
  omega

/-- A text stops at no character that goes on. -/
lemma not_tears_encode (cs : List Char) (ys : List UInt8) : ¬Tears (encode cs) ys := by
  rw [Tears, scan_encode]
  exact fun h => h.ne_nil rfl

/-- There is no return in the lossy text of bytes without one. -/
lemma return_notMem_decodeLossy (h : 13 ∉ bs) : '\r' ∉ decodeLossy bs := by
  intro hmem
  obtain hpiece | hend := List.mem_append.1 hmem
  · obtain ⟨piece, hpiece, hlossy⟩ := List.mem_map.1 hpiece
    have hbytes : 13 ∈ piece.bytes := by
      cases piece with
      | char c =>
        obtain rfl : c = '\r' := hlossy
        decide
      | bad run =>
        have hother : replacement ≠ '\r' := by decide
        exact absurd hlossy hother
    have hall := bytes_scan [] bs
    rw [List.nil_append] at hall
    exact h (hall ▸ List.mem_append_left _ (List.mem_flatMap.2 ⟨piece, hpiece, hbytes⟩))
  · split_ifs at hend
    · simp at hend
    · exact absurd hend (by decide)

end Parley.Text.Utf8
