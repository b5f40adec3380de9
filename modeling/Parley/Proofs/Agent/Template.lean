import Mathlib.Data.List.TakeWhile
import Mathlib.Tactic.Lemma
import Parley.Proofs.Task.Log
import Parley.Run

/-!
# What templates are made of

A template has one reading from left to right, whatever is filled in (`Template.Scans`): characters
that stand for themselves, and names between braces. Rendering puts the values of the names where
they stand and changes nothing else (`render_scanned`). A text that is escaped is read as its own
characters, whatever follows it (`render_escape_append`).
-/

namespace Parley

namespace Template

/-- A part of a template: a character that stands for itself, or a name to be filled in. -/
inductive Piece
  | literal (c : Char)
  | hole (name : List Char)
  deriving DecidableEq

def Piece.fill (context : Context) : Piece → List Char
  | literal c => [c]
  | hole name => ((context.get? (String.ofList name)).getD "").toList

/-- The first part of a template, and what follows it. A brace is one of a pair, or it opens a name
that ends at the next brace, or it stands for itself. -/
inductive Starts : List Char → Piece → List Char → Prop
  | openings (rest : List Char) : Starts ('\x7b' :: '\x7b' :: rest) (.literal '\x7b') rest
  | closings (rest : List Char) : Starts ('\x7d' :: '\x7d' :: rest) (.literal '\x7d') rest
  | closing {rest : List Char} (hrest : ∀ after, rest ≠ '\x7d' :: after) :
    Starts ('\x7d' :: rest) (.literal '\x7d') rest
  | hole {name rest after : List Char} (hrest : rest = name ++ '\x7d' :: after)
    (hname : ∀ c ∈ name, ¬isBrace c) : Starts ('\x7b' :: rest) (.hole name) after
  | opening {rest : List Char} (hrest : ∀ after, rest ≠ '\x7b' :: after)
    (hname : ∀ name after, rest = name ++ '\x7d' :: after → ∃ c ∈ name, isBrace c) :
    Starts ('\x7b' :: rest) (.literal '\x7b') rest
  | text {c : Char} (hc : ¬isBrace c) (rest : List Char) : Starts (c :: rest) (.literal c) rest

/-- What a template is made of, read from left to right. -/
inductive Scans : List Char → List Piece → Prop
  | none : Scans [] []
  | next {cs rest : List Char} {p : Piece} {ps : List Piece} (hp : Starts cs p rest)
    (h : Scans rest ps) : Scans cs (p :: ps)

variable {cs name name' rest rest' : List Char} {p q : Piece} {ps qs : List Piece}
  {context : Context}

/-! ### Names between braces -/

lemma isBrace_iff {c : Char} : isBrace c ↔ c = '\x7b' ∨ c = '\x7d' := by simp [isBrace]

theorem name?_eq_some_iff : name? cs = some (name, rest) ↔
    cs = name ++ '\x7d' :: rest ∧ ∀ c ∈ name, ¬isBrace c := by
  have hplain : ∀ c ∈ cs.takeWhile fun c => !isBrace c, ¬isBrace c :=
    fun c hc => by simpa using List.mem_takeWhile_imp hc
  unfold name?
  constructor
  · intro h
    split at h
    · next hrest =>
      cases h
      exact ⟨by rw [← hrest, List.takeWhile_append_dropWhile], hplain⟩
    · cases h
  · rintro ⟨rfl, hname⟩
    have hname' : ∀ c ∈ name, (!isBrace c) = true := fun c hc => by simpa using hname c hc
    rw [List.dropWhile_append_of_pos hname', List.takeWhile_append_of_pos hname']
    simp [isBrace]

lemma name?_eq_none_iff : name? cs = none ↔
    ∀ name after, cs = name ++ '\x7d' :: after → ∃ c ∈ name, isBrace c := by
  rw [Option.eq_none_iff_forall_ne_some, Prod.forall]
  refine forall_congr' fun name => forall_congr' fun after => ?_
  rw [Ne, name?_eq_some_iff]
  simp only [not_and, not_forall, not_not, exists_prop]

/-! ### Rendering what was read -/

lemma renderChars_closing (h : ∀ after, rest ≠ '\x7d' :: after) :
    renderChars context ('\x7d' :: rest) = '\x7d' :: renderChars context rest := by
  rw [renderChars]
  · simp
  · exact fun after _ => h after
  · simp

lemma renderChars_hole (h : name? cs = some (name, rest)) :
    renderChars context ('\x7b' :: cs) =
      ((context.get? (String.ofList name)).getD "").toList ++ renderChars context rest := by
  have hcs : ∀ after, cs ≠ '\x7b' :: after := by
    rintro after rfl
    obtain ⟨heq, hname⟩ := name?_eq_some_iff.1 h
    cases name with
    | nil => simp at heq
    | cons c name =>
      obtain ⟨rfl, -⟩ := List.cons.inj heq
      exact hname _ List.mem_cons_self rfl
  rw [renderChars]
  · split
    · next heq =>
      rw [h] at heq
      cases heq
      rfl
    · next heq =>
      rw [h] at heq
      cases heq
  · exact hcs

lemma renderChars_opening (hrest : ∀ after, rest ≠ '\x7b' :: after) (h : name? rest = none) :
    renderChars context ('\x7b' :: rest) = '\x7b' :: renderChars context rest := by
  rw [renderChars]
  · split
    · next heq =>
      rw [h] at heq
      cases heq
    · rfl
  · exact hrest

lemma renderChars_text {c : Char} (hc : ¬isBrace c) :
    renderChars context (c :: rest) = c :: renderChars context rest := by
  rw [isBrace_iff, not_or] at hc
  rw [renderChars]
  · exact fun _ h => absurd h hc.1
  · exact fun _ h => absurd h hc.2
  · exact hc.1

lemma renderChars_starts (h : Starts cs p rest) :
    renderChars context cs = p.fill context ++ renderChars context rest := by
  cases h with
  | openings =>
    rw [renderChars]
    rfl
  | closings =>
    rw [renderChars]
    rfl
  | closing hrest => exact renderChars_closing hrest
  | hole hrest hname => exact renderChars_hole (name?_eq_some_iff.2 ⟨hrest, hname⟩)
  | opening hrest hname => exact renderChars_opening hrest (name?_eq_none_iff.2 hname)
  | text hc => exact renderChars_text hc

/-- Whatever is filled in, it stands where the name stood, and the rest is as it was. -/
theorem renderChars_scanned (h : Scans cs ps) :
    renderChars context cs = ps.flatMap (·.fill context) := by
  induction h with
  | none => rw [renderChars, List.flatMap_nil]
  | next hp _ ih => rw [renderChars_starts hp, ih, List.flatMap_cons]

lemma render_scans {t : String} (h : Scans t.toList ps) (context : Context) :
    render context t = String.ofList (ps.flatMap (·.fill context)) := by
  rw [render, renderChars_scanned h]

/-! ### Every template has one reading -/

theorem exists_scans (cs : List Char) : ∃ ps, Scans cs ps := by
  induction cs using renderChars.induct with
  | case1 => exact ⟨_, .none⟩
  | case2 rest ih =>
    obtain ⟨ps, h⟩ := ih
    exact ⟨_, .next (.openings rest) h⟩
  | case3 rest ih =>
    obtain ⟨ps, h⟩ := ih
    exact ⟨_, .next (.closings rest) h⟩
  | case4 rest hrest name after hname _ ih =>
    obtain ⟨ps, h⟩ := ih
    obtain ⟨heq, hplain⟩ := name?_eq_some_iff.1 hname
    exact ⟨_, .next (.hole heq hplain) h⟩
  | case5 rest hrest hname ih =>
    obtain ⟨ps, h⟩ := ih
    exact ⟨_, .next (.opening hrest (name?_eq_none_iff.1 hname)) h⟩
  | case6 c rest hopenings hclosings hopening ih =>
    obtain ⟨ps, h⟩ := ih
    by_cases hc : c = '\x7d'
    · subst hc
      exact ⟨_, .next (.closing fun after => hclosings after rfl) h⟩
    · exact ⟨_, .next (.text (by rw [isBrace_iff]; exact not_or.2 ⟨hopening, hc⟩) rest) h⟩

lemma exists_brace_of_opening (h : '\x7b' :: rest = name ++ '\x7d' :: rest') :
    ∃ c ∈ name, isBrace c := by
  cases name with
  | nil => simp at h
  | cons c name =>
    obtain ⟨rfl, -⟩ := List.cons.inj h
    exact ⟨_, List.mem_cons_self, rfl⟩

lemma Starts.unique (h : Starts cs p rest) (h' : Starts cs q rest') : q = p ∧ rest' = rest := by
  cases h with
  | openings =>
    cases h' with
    | openings => exact ⟨rfl, rfl⟩
    | hole hrest hname =>
      exact absurd (exists_brace_of_opening hrest) fun ⟨c, hc, hbrace⟩ => hname c hc hbrace
    | opening hrest => exact absurd rfl (hrest _)
    | text hc => exact absurd rfl hc
  | closings =>
    cases h' with
    | closings => exact ⟨rfl, rfl⟩
    | closing hrest => exact absurd rfl (hrest _)
    | text hc => exact absurd rfl hc
  | closing hrest =>
    cases h' with
    | closings => exact absurd rfl (hrest _)
    | closing => exact ⟨rfl, rfl⟩
    | text hc => exact absurd rfl hc
  | hole hrest hname =>
    cases h' with
    | openings =>
      exact absurd (exists_brace_of_opening hrest) fun ⟨c, hc, hbrace⟩ => hname c hc hbrace
    | hole hrest' hname' =>
      have hfound := name?_eq_some_iff.2 ⟨hrest, hname⟩
      rw [name?_eq_some_iff.2 ⟨hrest', hname'⟩] at hfound
      cases hfound
      exact ⟨rfl, rfl⟩
    | opening _ hnone =>
      exact absurd (hnone _ _ hrest) fun ⟨c, hc, hbrace⟩ => hname c hc hbrace
    | text hc => exact absurd rfl hc
  | opening hrest hnone =>
    cases h' with
    | openings => exact absurd rfl (hrest _)
    | hole hrest' hname =>
      exact absurd (hnone _ _ hrest') fun ⟨c, hc, hbrace⟩ => hname c hc hbrace
    | opening => exact ⟨rfl, rfl⟩
    | text hc => exact absurd rfl hc
  | text hc =>
    cases h' with
    | text => exact ⟨rfl, rfl⟩
    | _ => exact absurd rfl hc

theorem Scans.unique (h : Scans cs ps) (h' : Scans cs qs) : qs = ps := by
  induction h generalizing qs with
  | none =>
    cases h' with
    | none => rfl
    | next hp => cases hp
  | next hp _ ih =>
    cases h' with
    | none => cases hp
    | next hq h' =>
      obtain ⟨rfl, rfl⟩ := hp.unique hq
      rw [ih h']

lemma Scans.names_plain (h : Scans cs ps) :
    ∀ name, .hole name ∈ ps → ∀ c ∈ name, ¬isBrace c := by
  induction h with
  | none => exact fun name h => (by cases h)
  | next hp _ ih =>
    intro name hname
    obtain rfl | hname := List.mem_cons.1 hname
    · cases hp with
      | hole _ hplain => exact hplain
    · exact ih name hname

/-! ### Contexts that differ in one value -/

variable {c c' : Context} {key : String}

lemma Piece.fill_congr (h : ∀ other, other ≠ key → c.get? other = c'.get? other)
    (hp : p ≠ .hole key.toList) : p.fill c = p.fill c' := by
  cases p with
  | literal c => rfl
  | hole name =>
    have hname : String.ofList name ≠ key := by
      rintro rfl
      exact hp (by rw [String.toList_ofList])
    rw [fill, fill, h _ hname]

/-- The same texts stand between the values of a name. -/
lemma exists_texts (h : ∀ other, other ≠ key → c.get? other = c'.get? other) (ps : List Piece) :
    ∃ texts : List (List Char), texts.length = ps.count (.hole key.toList) + 1 ∧
      ps.flatMap (·.fill c) = (c.value key).toList.intercalate texts ∧
      ps.flatMap (·.fill c') = (c'.value key).toList.intercalate texts := by
  have append_first (v front text : List Char) (texts : List (List Char)) :
      v.intercalate ((front ++ text) :: texts) = front ++ v.intercalate (text :: texts) := by
    cases texts <;> simp
  induction ps with
  | nil => exact ⟨[[]], rfl, rfl, rfl⟩
  | cons p ps ih =>
    obtain ⟨_ | ⟨text, texts⟩, hlength, hc, hc'⟩ := ih
    · cases hlength
    rw [List.flatMap_cons, hc, List.flatMap_cons, hc']
    by_cases hp : p = .hole key.toList
    · subst hp
      refine ⟨[] :: text :: texts, ?_, ?_, ?_⟩
      · rw [List.length_cons, hlength, List.count_cons_self]
      · rw [List.intercalate_cons_cons, List.nil_append, Piece.fill, String.ofList_toList]
        rfl
      · rw [List.intercalate_cons_cons, List.nil_append, Piece.fill, String.ofList_toList]
        rfl
    · refine ⟨(p.fill c ++ text) :: texts, ?_, (append_first ..).symm, ?_⟩
      · rw [List.length_cons, List.count_cons_of_ne hp, ← hlength, List.length_cons]
      · rw [append_first, Piece.fill_congr h hp]

/-- A template is made of the same parts whatever is filled in, and these are the ones that a single
reading from left to right finds. So no brace of a value is ever read, and if a value changes, then
only what stands in the place of its name does. -/
theorem render_scanned (t : String) : ∃ ps, (∀ qs, Scans t.toList qs ↔ qs = ps) ∧
    (∀ name, .hole name ∈ ps → ∀ c ∈ name, ¬isBrace c) ∧
    (∀ context, (render context t).toList = ps.flatMap (·.fill context)) ∧
    ∀ (c c' : Context) (key : String), (∀ other, other ≠ key → c.get? other = c'.get? other) →
      ∃ texts : List (List Char), texts.length = ps.count (.hole key.toList) + 1 ∧
        (render c t).toList = (c.value key).toList.intercalate texts ∧
        (render c' t).toList = (c'.value key).toList.intercalate texts := by
  obtain ⟨ps, hps⟩ := exists_scans t.toList
  refine ⟨ps, fun qs => ⟨hps.unique, fun h => h ▸ hps⟩, hps.names_plain, fun context => ?_,
    fun c c' key h => ?_⟩
  · rw [render_scans hps, String.toList_ofList]
  · rw [render_scans hps, render_scans hps, String.toList_ofList, String.toList_ofList]
    exact exists_texts h ps

/-- What changes with the topic is the one place of it; the braces of the prompt are left alone. -/
theorem render_scanned_echo : ∃ (c c' : Context) (texts : List (List Char)),
    (∀ other, other ≠ "topic" → c.get? other = c'.get? other) ∧ texts.length = 2 ∧
      (render c "\x7b\x7b\x7btopic\x7d: \x7bprompt\x7d").toList =
        "rain".toList.intercalate texts ∧
      (render c' "\x7b\x7b\x7btopic\x7d: \x7bprompt\x7d").toList =
        "sun".toList.intercalate texts ∧
      render c "\x7b\x7b\x7btopic\x7d: \x7bprompt\x7d" = "\x7brain: \x7btopic\x7d\x7d" := by
  let chat := Context.new "\x7btopic\x7d\x7d" []
  have hsame : ∀ other, other ≠ "topic" →
      (chat.record "topic" "rain").get? other = (chat.record "topic" "sun").get? other := by
    intro other hother
    rw [Context.get?_record, Context.get?_record, if_neg hother, if_neg hother]
  have hscans : Scans "\x7b\x7b\x7btopic\x7d: \x7bprompt\x7d".toList
      [.literal '\x7b', .hole "topic".toList, .literal ':', .literal ' ', .hole "prompt".toList] :=
    .next (.openings _) <| .next (.hole rfl (by simp [isBrace])) <| .next (.text (by decide) _) <|
      .next (.text (by decide) _) <| .next (.hole rfl (by simp [isBrace])) .none
  obtain ⟨ps, hps, -, -, hchanges⟩ :=
    render_scanned "\x7b\x7b\x7btopic\x7d: \x7bprompt\x7d"
  obtain rfl := (hps _).1 hscans
  obtain ⟨texts, hlength, hrain, hsun⟩ := hchanges _ _ _ hsame
  exact ⟨_, _, texts, hsame, hlength, hrain, hsun, by decide +kernel⟩

/-! ### Escaped text -/

/-- Two passes, of which neither touches the braces of the other, write each brace twice. -/
lemma double_double (cs : List Char) : double '\x7d' (double '\x7b' cs) =
    cs.flatMap fun c => if isBrace c then [c, c] else [c] := by
  rw [double, double, List.flatMap_assoc]
  refine congrArg (cs.flatMap ·) (funext fun c => ?_)
  by_cases hopening : c = '\x7b'
  · subst hopening
    rfl
  · by_cases hclosing : c = '\x7d'
    · subst hclosing
      rfl
    · simp [isBrace, hopening, hclosing]

lemma scans_doubled (cs : List Char) (h : Scans rest ps) :
    Scans (double '\x7d' (double '\x7b' cs) ++ rest) (cs.map .literal ++ ps) := by
  rw [double_double]
  induction cs with
  | nil => exact h
  | cons c cs ih =>
    rw [List.flatMap_cons, List.append_assoc]
    by_cases hc : isBrace c
    · rw [if_pos hc]
      obtain rfl | rfl := isBrace_iff.1 hc
      · exact .next (.openings _) ih
      · exact .next (.closings _) ih
    · rw [if_neg hc]
      exact .next (.text hc _) ih

lemma scans_escape_append {s t : String} (h : Scans t.toList ps) :
    Scans (escape s ++ t).toList (s.toList.map .literal ++ ps) := by
  rw [String.toList_append, escape, String.toList_ofList]
  exact scans_doubled s.toList h

theorem render_escape_append (s t : String) (c : Context) :
    render c (escape s ++ t) = s ++ render c t := by
  obtain ⟨ps, hps⟩ := exists_scans t.toList
  have hliterals : (s.toList.map Piece.literal).flatMap (·.fill c) = s.toList := by
    rw [List.flatMap_map]
    exact List.flatMap_singleton' _
  rw [render_scans (scans_escape_append hps), render_scans hps, List.flatMap_append, hliterals,
    String.ofList_append, String.ofList_toList]

theorem render_escape (s : String) (c : Context) : render c (escape s) = s := by
  have h := render_escape_append s "" c
  rwa [render_scans (t := "") .none, String.append_empty, List.flatMap_nil, String.ofList_nil,
    String.append_empty] at h

/-- A name between braces, and nothing else, is filled in. -/
lemma render_name {name : String} (hname : ∀ c ∈ name.toList, ¬isBrace c) (c : Context) :
    render c ("\x7b" ++ name ++ "\x7d") = c.value name := by
  have hscans : Scans ("\x7b" ++ name ++ "\x7d").toList [.hole name.toList] := by
    rw [String.toList_append, String.toList_append]
    exact .next (.hole rfl hname) .none
  rw [render_scans hscans, List.flatMap_singleton, Piece.fill, String.ofList_toList,
    String.ofList_toList]
  rfl

end Template

namespace Plan

open Template

/-- Without an agent the model is asked with the prompts as they stand. -/
lemma default_request (systemPrompt : String) (c : Context) :
    (default systemPrompt).answer.request c = ⟨systemPrompt, c.history, c.prompt⟩ := by
  have hprompt : render c ("\x7b" ++ Context.promptName ++ "\x7d") = c.prompt :=
    render_name (by simp [Context.promptName, isBrace]) c
  rw [Prompt.request, default, render_escape, hprompt]
  rfl

lemma default_run (systemPrompt : String) (c : Context) : (default systemPrompt).run c = (do
    let reply ← Task.openStream ⟨systemPrompt, c.history, c.prompt⟩
    return (c, reply)) := by
  rw [← default_request]
  rfl

lemma ran_default_iff {systemPrompt : String} {c : Context} {log : List Asked}
    {out : Context × Except RunError Stream} : ((default systemPrompt).run c).Ran log out ↔
      ∃ reply, log = [⟨.openStream ⟨systemPrompt, c.history, c.prompt⟩, reply⟩] ∧
        out = (c, reply) := by
  rw [default_run, Task.openStream, Task.ran_call_bind_iff]
  refine exists_congr fun reply => ⟨?_, ?_⟩
  · rintro ⟨rest, rfl, h⟩
    obtain ⟨rfl, rfl⟩ := Task.ran_pure_iff.1 h
    exact ⟨rfl, rfl⟩
  · rintro ⟨rfl, rfl⟩
    exact ⟨[], rfl, .done _⟩

end Plan

namespace Template

/-- An escaped text is a beginning that stands for itself: what follows it is read as if it stood
alone. So a chat without an agent asks the model with the system prompt as it was written. -/
theorem escape_reads_literally (s t : String) (c : Context) :
    render c (escape s ++ t) = s ++ render c t ∧ render c (escape s) = s ∧
    (∀ ps, Scans (escape s ++ t).toList ps ↔
      ∃ qs, Scans t.toList qs ∧ ps = s.toList.map .literal ++ qs) ∧
    ∀ log out, ((Plan.default s).run c).Ran log out ↔
      ∃ reply, log = [⟨.openStream ⟨s, c.history, c.prompt⟩, reply⟩] ∧ out = (c, reply) := by
  refine ⟨render_escape_append s t c, render_escape s c, fun ps => ⟨fun h => ?_, ?_⟩,
    fun log out => Plan.ran_default_iff⟩
  · obtain ⟨qs, hqs⟩ := exists_scans t.toList
    exact ⟨qs, hqs, (scans_escape_append hqs).unique h⟩
  · rintro ⟨qs, hqs, rfl⟩
    exact scans_escape_append hqs

end Template

end Parley
