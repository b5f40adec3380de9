/-!
# Blank characters

`isBlank` is the Unicode property White_Space; `trimStart`, `trimEnd` and `trim` drop blank
characters at the ends of a text, and `blank` says that nothing else is left.
-/

namespace Parley.Text

/-- The Unicode property White_Space. -/
def isBlank (c : Char) : Bool :=
  c = ' ' || ('\t' ≤ c && c ≤ '\r') || c = '\u0085' || c = '\u00a0' || c = '\u1680' ||
    ('\u2000' ≤ c && c ≤ '\u200a') || c = '\u2028' || c = '\u2029' || c = '\u202f' ||
    c = '\u205f' || c = '\u3000'

namespace Chars

def trimStart (cs : List Char) : List Char := cs.dropWhile isBlank

def trimEnd (cs : List Char) : List Char := (cs.reverse.dropWhile isBlank).reverse

def trim (cs : List Char) : List Char := trimEnd (trimStart cs)

theorem trimStart_append (cs ds : List Char) :
    trimStart (cs ++ ds) = if trimStart cs = [] then trimStart ds else trimStart cs ++ ds := by
  induction cs with
  | nil => simp [trimStart]
  | cons c cs ih =>
    by_cases h : isBlank c
    · have drop (l : List Char) : trimStart (c :: l) = trimStart l := List.dropWhile_cons_of_pos h
      rw [List.cons_append, drop, drop, ih]
    · simp [trimStart, h]

/-- A text without blanks is trimmed. -/
theorem trim_of_plain {cs : List Char} (h : ∀ c ∈ cs, ¬isBlank c) : trim cs = cs := by
  have hdrop {ds : List Char} (h : ∀ c ∈ ds, ¬isBlank c) : ds.dropWhile isBlank = ds := by
    cases ds with
    | nil => rfl
    | cons c ds => exact List.dropWhile_cons_of_neg (h c List.mem_cons_self)
  rw [trim, trimEnd, trimStart, hdrop h, hdrop fun c hc => h c (List.mem_reverse.1 hc),
    List.reverse_reverse]

end Chars

def trimStart (s : String) : String := String.ofList (Chars.trimStart s.toList)

def trimEnd (s : String) : String := String.ofList (Chars.trimEnd s.toList)

def trim (s : String) : String := String.ofList (Chars.trim s.toList)

/-- Only blank characters, or none. -/
def blank (s : String) : Bool := s.toList.all isBlank

/-- The trimmed text, if anything is left of it. -/
def trimmed? (s : String) : Option String := if blank s then none else some (trim s)

end Parley.Text
