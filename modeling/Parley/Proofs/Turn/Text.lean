import Mathlib.Tactic.Lemma
import Mathlib.Tactic.SplitIfs
import Parley.Turn.Basic

/-!
# The text of a turn

However a reply is split into deltas, a turn keeps their concatenation without the blanks at its
start.
-/

namespace Parley

namespace Text

lemma trimStart_eq_empty_iff (s : String) : trimStart s = "" ↔ Chars.trimStart s.toList = [] := by
  rw [trimStart, ← String.toList_inj, String.toList_ofList]
  rfl

theorem trimStart_append (s d : String) :
    trimStart (s ++ d) = if trimStart s = "" then trimStart d else trimStart s ++ d := by
  simp only [trimStart_eq_empty_iff]
  rw [← String.toList_inj]
  split_ifs with h <;> simp [trimStart, Chars.trimStart_append, h]

end Text

namespace Turn

/-- The text of a turn that took some deltas: all of them, without the blanks the text would start
with. -/
def textWith (t : Turn) (deltas : List String) : String :=
  if t.aiText = "" then Text.trimStart (String.join deltas) else t.aiText ++ String.join deltas

lemma textWith_nil (t : Turn) : t.textWith [] = t.aiText := by
  by_cases h : t.aiText = ""
  · simp [textWith, h, Text.trimStart, Text.Chars.trimStart]
  · simp [textWith, h]

theorem aiText_push {t t' : Turn} {deltas : List String} (h : t'.aiText = t.textWith deltas)
    (delta : String) : (t'.push delta).aiText = t.textWith (deltas ++ [delta]) := by
  have hjoin : String.join (deltas ++ [delta]) = String.join deltas ++ delta := by
    rw [String.join_append, String.join_cons, String.join_nil, String.append_empty]
  by_cases ht : t.aiText = ""
  · rw [textWith, if_pos ht] at h
    rw [textWith, if_pos ht, hjoin, Text.trimStart_append, ← h]
    by_cases ht' : t'.aiText = "" <;> simp [push, appended, ht']
  · rw [textWith, if_neg ht] at h
    have ht' : t'.aiText ≠ "" := by simp [h, ht]
    rw [textWith, if_neg ht, hjoin, ← String.append_assoc, ← h]
    simp [push, appended, ht']

end Turn

end Parley
