import Parley.Json.Decoder
import Parley.Json.Printer
import Parley.Proofs.Text.Digits

/-!
# Printed JSON read back

A value is read back from its text, in either layout (`value_print`), and so a decoder makes of the
text what it makes of the value (`decode_pretty`). This is for values without numerals.
-/

namespace Parley.Json

variable {seen rest : List Char}

lemma literal_short {c e : Char} (h : shortEscape? e = some c) :
    literal seen true ('\\' :: e :: rest) = literal (c :: seen) true rest := by
  have hu : e ≠ 'u' := by
    rintro rfl
    cases h
  rw [literal, h]
  · exact fun _ _ _ _ _ _ _ _ _ he => absurd he hu
  · exact fun _ _ _ _ _ he => absurd he hu

/-- Four digits that are no surrogate, whatever stands behind them. -/
lemma literal_hex {a b c d : Char} {n : Nat} (h : hex4? a b c d = some n) (hhigh : ¬isHigh n)
    (hlow : ¬isLow n) :
    literal seen true ('\\' :: 'u' :: a :: b :: c :: d :: rest) =
      literal (Char.ofNat n :: seen) true rest := by
  by_cases hpair : ∃ e f g i rest', rest = '\\' :: 'u' :: e :: f :: g :: i :: rest'
  · obtain ⟨e, f, g, i, rest', rfl⟩ := hpair
    rw [literal, h]
    simp only [hhigh, hlow, if_false, Bool.false_eq_true]
  · rw [literal, h]
    · simp [hhigh, hlow]
    · exact fun e f g i rest' heq => hpair ⟨e, f, g, i, rest', heq⟩

lemma literal_control {c : Char} (h : c.toNat < 32) :
    literal seen true (controlEscape c ++ rest) = literal (c :: seen) true rest := by
  have hdigit (n : Nat) : Text.hexDigit? (Text.digitChar (n % 16)) = some (n % 16) :=
    Text.hexDigit?_digitChar (Nat.mod_lt _ (by decide))
  have hhex : hex4? (Text.digitChar (c.toNat / 16 / 16 / 16 % 16))
      (Text.digitChar (c.toNat / 16 / 16 % 16)) (Text.digitChar (c.toNat / 16 % 16))
      (Text.digitChar (c.toNat % 16)) = some c.toNat := by
    rw [hex4?, hdigit, hdigit, hdigit, hdigit]
    exact congrArg some (by omega)
  have hlow : ¬isHigh c.toNat ∧ ¬isLow c.toNat := by
    simp [isHigh, isLow]
    omega
  have hliteral : literal seen true (controlEscape c ++ rest) =
      literal (Char.ofNat c.toNat :: seen) true rest := literal_hex hhex hlow.1 hlow.2
  rwa [Char.ofNat_toNat] at hliteral

lemma literal_escape (c : Char) :
    literal seen true (escapeChar c ++ rest) = literal (c :: seen) true rest := by
  unfold escapeChar
  split_ifs with hquote hslash hb hf hn hr ht hcontrol
  · subst hquote
    exact literal_short rfl
  · subst hslash
    exact literal_short rfl
  · subst hb
    exact literal_short rfl
  · subst hf
    exact literal_short rfl
  · subst hn
    exact literal_short rfl
  · subst hr
    exact literal_short rfl
  · subst ht
    exact literal_short rfl
  · exact literal_control (UInt32.lt_iff_toNat_lt.1 hcontrol)
  · rw [List.singleton_append, literal, if_neg hcontrol]
    · exact hquote
    · exact fun _ _ _ _ _ _ _ _ _ h => absurd h hslash
    · exact fun _ _ _ _ _ h => absurd h hslash
    · exact fun _ _ h => absurd h hslash

lemma literal_escaped (cs : List Char) :
    literal seen true (cs.flatMap escapeChar ++ '"' :: rest) =
      .text (String.ofList (seen.reverse ++ cs)) rest := by
  induction cs generalizing seen with
  | nil =>
    rw [List.flatMap_nil, List.nil_append, literal, if_pos rfl, List.append_nil]
  | cons c cs ih =>
    rw [List.flatMap_cons, List.append_assoc, literal_escape, ih, List.reverse_cons,
      List.append_assoc, List.singleton_append]

/-- A text is read back. -/
theorem literal_quote (s : String) (rest : List Char) :
    ∃ cs, quote s ++ rest = '"' :: cs ∧ literal [] true cs = .text s rest := by
  refine ⟨s.toList.flatMap escapeChar ++ '"' :: rest, by simp [quote], ?_⟩
  rw [literal_escaped, List.reverse_nil, List.nil_append, String.ofList_toList]

variable {gap cs : List Char} {fuel : Nat}

lemma skip_gap (h : ∀ c ∈ gap, isGap c) : skip (gap ++ cs) = skip cs :=
  List.dropWhile_append_of_pos h

lemma skip_cons {c : Char} (h : isGap c = false) : skip (c :: cs) = c :: cs :=
  List.dropWhile_cons_of_neg (by simp [h])

lemma value_congr {cs' : List Char} (h : skip cs = skip cs') : value fuel cs = value fuel cs' := by
  cases fuel with
  | zero => rfl
  | succ fuel => rw [value, value, h]

lemma items_congr {cs' : List Char} (h : skip cs = skip cs') : items fuel cs = items fuel cs' := by
  cases fuel with
  | zero => rfl
  | succ fuel => rw [items, items, value_congr h]

lemma members_congr {cs' : List Char} (h : skip cs = skip cs') :
    members fuel cs = members fuel cs' := by
  cases fuel with
  | zero => rfl
  | succ fuel => rw [members, members, h]

lemma lineBreak_gap (level : Option Nat) : ∀ c ∈ lineBreak level, isGap c := by
  intro c hc
  cases level with
  | none => cases hc
  | some n =>
    obtain rfl | hc := List.mem_cons.1 hc
    · rfl
    · exact (List.eq_of_mem_replicate hc) ▸ rfl

mutual

/-- No numeral inside, and every name and text is a proper one. -/
def plain : Json → Bool
  | .number _ => false
  | .garbled => false
  | .torn => false
  | .list items => plainItems items
  | .record members => plainMembers members
  | _ => true

def plainItems : List Json → Bool
  | [] => true
  | x :: xs => plain x && plainItems xs

def plainMembers : List (Option String × Json) → Bool
  | [] => true
  | (name, x) :: ms => name.isSome && plain x && plainMembers ms

end

/-- The text of a value begins with a character that no list or record ends with. -/
lemma print_head {j : Json} (h : j.plain) (level : Option Nat) :
    ∃ c cs, print level j = c :: cs ∧ isGap c = false ∧ c ≠ ']' := by
  cases j with
  | null => exact ⟨_, _, rfl, rfl, by decide⟩
  | bool b => cases b <;> exact ⟨_, _, rfl, rfl, by decide⟩
  | text s => exact ⟨_, _, rfl, rfl, by decide⟩
  | list items => cases items <;> exact ⟨'[', _, by rw [print] <;> rfl, rfl, by decide⟩
  | record members => cases members <;> exact ⟨'\x7b', _, by rw [print] <;> rfl, rfl, by decide⟩
  | number => cases h
  | garbled => cases h
  | torn => cases h

/-- A list is read as its elements are. -/
lemma value_list {xs : List Json} (hhead : ∃ c ds, skip cs = c :: ds ∧ isGap c = false ∧ c ≠ ']')
    (h : items fuel cs = (xs, some rest)) :
    value (fuel + 1) ('[' :: cs) = (.list xs, some rest) := by
  obtain ⟨c, ds, hcs, hgap, hc⟩ := hhead
  have hds : skip (c :: ds) = skip cs := by rw [hcs, skip_cons hgap]
  rw [← items_congr hds] at h
  rw [value, skip_cons (by decide)]
  simp only [hcs]
  split
  · rename_i hend
    exact absurd (List.cons.inj hend).1 hc
  · rw [h]

/-- A record is read as its members are. -/
lemma value_record {ms : List (Option String × Json)} {ds : List Char} (hcs : skip cs = '"' :: ds)
    (h : members fuel cs = (ms, some rest)) :
    value (fuel + 1) ('\x7b' :: cs) = (.record ms, some rest) := by
  have hds : skip ('"' :: ds) = skip cs := by rw [hcs, skip_cons (by decide)]
  rw [← members_congr hds] at h
  rw [value, skip_cons (by decide)]
  simp only [hcs]
  split
  · rename_i hend
    exact absurd (List.cons.inj hend).1 (by decide)
  · rw [h]

/-- The name of a member is read first, and then its value. -/
lemma members_name {s : String} {x : Json} {level : Option Nat} (hgap : ∀ c ∈ gap, isGap c)
    (hvalue : value fuel (print level x ++ cs) = (x, some cs)) :
    ∃ ds es, skip ds = ':' :: es ∧ value fuel es = (x, some cs) ∧
      members (fuel + 2) (gap ++ (quote s ++ (colon level ++ (print level x ++ cs)))) =
        member (fuel + 1) (some s) ds := by
  obtain ⟨ds, hds, hliteral⟩ := literal_quote s (colon level ++ (print level x ++ cs))
  have hmembers : members (fuel + 2) (gap ++ (quote s ++ (colon level ++ (print level x ++ cs)))) =
      member (fuel + 1) (some s) (colon level ++ (print level x ++ cs)) := by
    rw [members, skip_gap hgap, hds, skip_cons (by decide)]
    simp only [hliteral]
  cases level with
  | none => exact ⟨_, _, skip_cons (by decide), hvalue, hmembers⟩
  | some n =>
    refine ⟨_, _, skip_cons (by decide), (value_congr ?_).trans hvalue, hmembers⟩
    exact skip_gap (List.forall_mem_singleton.2 rfl)

/-- After a comma, members are read as the first one and those behind it are. -/
lemma members_cons {s : String} {x : Json} {level : Option Nat}
    {ms : List (Option String × Json)} {rest rest' : List Char} (hgap : ∀ c ∈ gap, isGap c)
    (hvalue : value fuel (print level x ++ cs) = (x, some cs)) (hcs : skip cs = ',' :: rest)
    (h : members fuel rest = (ms, some rest')) :
    members (fuel + 2) (gap ++ (quote s ++ (colon level ++ (print level x ++ cs)))) =
      ((some s, x) :: ms, some rest') := by
  obtain ⟨ds, es, hes, hx, hmembers⟩ := members_name hgap hvalue
  rw [hmembers, member, hes]
  simp only [hx, hcs, h]

/-- Where the record ends, there is no other member. -/
lemma members_last {s : String} {x : Json} {level : Option Nat} {rest : List Char}
    (hgap : ∀ c ∈ gap, isGap c) (hvalue : value fuel (print level x ++ cs) = (x, some cs))
    (hcs : skip cs = '\x7d' :: rest) :
    members (fuel + 2) (gap ++ (quote s ++ (colon level ++ (print level x ++ cs)))) =
      ([(some s, x)], some rest) := by
  obtain ⟨ds, es, hes, hx, hmembers⟩ := members_name hgap hvalue
  rw [hmembers, member, hes]
  simp only [hx, hcs]

lemma length_quote (s : String) : 2 ≤ (quote s).length := by
  simp [quote]

lemma length_colon (level : Option Nat) : 1 ≤ (colon level).length := by
  cases level <;> exact Nat.le_add_left ..

lemma printItems_cons (level : Option Nat) (x y : Json) (ys : List Json) :
    printItems level (x :: y :: ys) =
      lineBreak level ++ (print level x ++ ',' :: printItems level (y :: ys)) := by
  rw [printItems, List.append_assoc]
  exact fun h => nomatch h

lemma printMembers_cons (level : Option Nat) (s : String) (x : Json) (m : Option String × Json)
    (ms : List (Option String × Json)) :
    printMembers level ((some s, x) :: m :: ms) = lineBreak level ++
      (quote s ++ (colon level ++ (print level x ++ ',' :: printMembers level (m :: ms)))) := by
  rw [printMembers, Option.getD_some, List.append_assoc, List.append_assoc, List.append_assoc]
  exact fun h => nomatch h

/-- A list of elements begins with the text of the first one. -/
lemma printItems_head {x : Json} (h : x.plain) (level : Option Nat) (xs : List Json) :
    ∃ c ds, skip (printItems level (x :: xs) ++ cs) = c :: ds ∧ isGap c = false ∧ c ≠ ']' := by
  obtain ⟨c, ds, hprint, hgap, hc⟩ := print_head h level
  obtain ⟨tail, htail⟩ : ∃ tail, printItems level (x :: xs) ++ cs =
      lineBreak level ++ (print level x ++ tail) := by
    cases xs with
    | nil => exact ⟨cs, by rw [printItems, List.append_assoc]⟩
    | cons y ys => exact ⟨_, by rw [printItems_cons, List.append_assoc, List.append_assoc]⟩
  refine ⟨c, ds ++ tail, ?_, hgap, hc⟩
  rw [htail, skip_gap (lineBreak_gap level), hprint, List.cons_append, skip_cons hgap]

/-- A list of members begins with the name of the first one. -/
lemma printMembers_head (level : Option Nat) (s : String) (x : Json)
    (ms : List (Option String × Json)) :
    ∃ ds, skip (printMembers level ((some s, x) :: ms) ++ cs) = '"' :: ds := by
  obtain ⟨tail, htail⟩ : ∃ tail, printMembers level ((some s, x) :: ms) ++ cs =
      lineBreak level ++ (quote s ++ tail) := by
    cases ms with
    | nil =>
      refine ⟨colon level ++ (print level x ++ cs), ?_⟩
      simp only [printMembers, Option.getD_some, List.append_assoc]
    | cons m ms => exact ⟨_, by rw [printMembers_cons, List.append_assoc, List.append_assoc]⟩
  obtain ⟨ds, hds, -⟩ := literal_quote s tail
  exact ⟨ds, by rw [htail, skip_gap (lineBreak_gap level), hds, skip_cons (by decide)]⟩

mutual

/-- A value is read back from its text, whatever stands behind it. -/
theorem value_print (j : Json) (h : j.plain) (level : Option Nat) (rest : List Char) (fuel : Nat)
    (hfuel : 2 * (print level j).length ≤ fuel) :
    value fuel (print level j ++ rest) = (j, some rest) := by
  obtain ⟨fuel, rfl⟩ : ∃ n, fuel = n + 1 := by
    obtain ⟨c, cs, hprint, -⟩ := print_head h level
    rw [hprint, List.length_cons] at hfuel
    exact ⟨fuel - 1, by omega⟩
  match j with
  | .null =>
    rw [value, print]
    rfl
  | .bool true =>
    rw [value, print]
    rfl
  | .bool false =>
    rw [value, print]
    rfl
  | .text s =>
    obtain ⟨cs, hcs, hliteral⟩ := literal_quote s rest
    rw [value, print, hcs, skip_cons (by decide)]
    simp only [hliteral]
  | .list [] =>
    rw [value, print]
    rfl
  | .list (x :: xs) =>
    rw [plain] at h
    rw [print] at hfuel ⊢
    simp only [List.length_append, List.length_cons, List.length_nil] at hfuel
    have hitems := items_print (x :: xs) (List.cons_ne_nil _ _) h (deeper level) (lineBreak level)
      (lineBreak_gap level) rest fuel (by omega)
    rw [plainItems, Bool.and_eq_true] at h
    simp only [List.cons_append, List.append_assoc, List.nil_append]
    exact value_list (printItems_head h.1 _ xs) hitems
  | .record [] =>
    rw [value, print]
    rfl
  | .record ((none, x) :: ms) => cases h
  | .record ((some s, x) :: ms) =>
    rw [plain] at h
    rw [print] at hfuel ⊢
    simp only [List.length_append, List.length_cons, List.length_nil] at hfuel
    have hmembers := members_print ((some s, x) :: ms) (List.cons_ne_nil _ _) h (deeper level)
      (lineBreak level) (lineBreak_gap level) rest fuel (by omega)
    obtain ⟨ds, hds⟩ := printMembers_head (deeper level) s x ms
    simp only [List.cons_append, List.append_assoc, List.nil_append]
    exact value_record hds hmembers
  | .number _ => cases h
  | .garbled => cases h
  | .torn => cases h

theorem items_print (xs : List Json) (hne : xs ≠ []) (h : plainItems xs) (level : Option Nat)
    (gap : List Char) (hgap : ∀ c ∈ gap, isGap c) (rest : List Char) (fuel : Nat)
    (hfuel : 2 * (printItems level xs).length + 1 ≤ fuel) :
    items fuel (printItems level xs ++ (gap ++ ']' :: rest)) = (xs, some rest) := by
  obtain ⟨fuel, rfl⟩ : ∃ n, fuel = n + 1 := ⟨fuel - 1, by omega⟩
  match xs with
  | [] => exact absurd rfl hne
  | [x] =>
    rw [plainItems, Bool.and_eq_true] at h
    rw [printItems] at hfuel ⊢
    rw [List.length_append] at hfuel
    have hx := value_print x h.1 level (gap ++ ']' :: rest) fuel (by omega)
    rw [List.append_assoc, items, value_congr (skip_gap (lineBreak_gap level)), hx]
    simp only [skip_gap hgap, skip_cons (show isGap ']' = false by decide)]
  | x :: y :: ys =>
    rw [plainItems, Bool.and_eq_true] at h
    rw [printItems_cons] at hfuel ⊢
    simp only [List.length_append, List.length_cons] at hfuel
    have hx := value_print x h.1 level (',' :: printItems level (y :: ys) ++ (gap ++ ']' :: rest))
      fuel (by omega)
    have hxs := items_print (y :: ys) (List.cons_ne_nil _ _) h.2 level gap hgap rest fuel (by omega)
    rw [List.append_assoc, List.append_assoc, items, value_congr (skip_gap (lineBreak_gap level)),
      hx]
    simp only [List.cons_append, skip_cons (show isGap ',' = false by decide), hxs]

theorem members_print (ms : List (Option String × Json)) (hne : ms ≠ []) (h : plainMembers ms)
    (level : Option Nat) (gap : List Char) (hgap : ∀ c ∈ gap, isGap c) (rest : List Char)
    (fuel : Nat) (hfuel : 2 * (printMembers level ms).length + 1 ≤ fuel) :
    members fuel (printMembers level ms ++ (gap ++ '\x7d' :: rest)) = (ms, some rest) := by
  match ms with
  | [] => exact absurd rfl hne
  | (none, x) :: ms => cases h
  | [(some s, x)] =>
    rw [plainMembers, Bool.and_eq_true, Bool.and_eq_true] at h
    have hprint : printMembers level [(some s, x)] =
        lineBreak level ++ (quote s ++ (colon level ++ print level x)) := by
      simp only [printMembers, Option.getD_some, List.append_assoc]
    have hquote := length_quote s
    have hcolon := length_colon level
    rw [hprint] at hfuel ⊢
    simp only [List.length_append] at hfuel
    obtain ⟨fuel, rfl⟩ : ∃ n, fuel = n + 2 := ⟨fuel - 2, by omega⟩
    have hx := value_print x h.1.2 level (gap ++ '\x7d' :: rest) fuel (by omega)
    simp only [List.append_assoc]
    have hend : skip (gap ++ '\x7d' :: rest) = '\x7d' :: rest := by
      rw [skip_gap hgap, skip_cons (by decide)]
    exact members_last (lineBreak_gap level) hx hend
  | (some s, x) :: m :: ms =>
    rw [plainMembers, Bool.and_eq_true, Bool.and_eq_true] at h
    have hquote := length_quote s
    have hcolon := length_colon level
    rw [printMembers_cons] at hfuel ⊢
    simp only [List.length_append, List.length_cons] at hfuel
    obtain ⟨fuel, rfl⟩ : ∃ n, fuel = n + 2 := ⟨fuel - 2, by omega⟩
    have hx := value_print x h.1.2 level (',' :: (printMembers level (m :: ms) ++
      (gap ++ '\x7d' :: rest))) fuel (by omega)
    have hms := members_print (m :: ms) (List.cons_ne_nil _ _) h.2 level gap hgap rest fuel
      (by omega)
    simp only [List.append_assoc, List.cons_append]
    exact members_cons (lineBreak_gap level) hx (skip_cons (by decide)) hms

end

/-- A decoder makes of the text of a value what it makes of the value. -/
theorem decode_pretty {α : Type} {j : Json} (h : j.plain) (d : Decoder α) :
    decode d j.pretty = d j := by
  have hread : read (print (some 0) j) = (j, some []) := by
    have hvalue := value_print j h (some 0) [] (2 * (print (some 0) j).length + 2) (by omega)
    rwa [List.append_nil] at hvalue
  rw [decode, pretty, String.toList_ofList, decodeChars, hread]
  dsimp only
  cases d j with
  | error fault => rfl
  | ok a => rfl

end Parley.Json
