import Parley.Agent.Context

/-!
# Templates

A template is read once, from left to right. Two like braces stand for one, a name between braces
stands for what the context binds to it, and any other brace stands for itself. What is filled in is
never looked at again.
-/

namespace Parley.Template

def isBrace (c : Char) : Bool := c = '\x7b' || c = '\x7d'

/-- The name in front of a closing brace, and what follows the brace. -/
def name? (cs : List Char) : Option (List Char × List Char) :=
  match cs.dropWhile fun c => !isBrace c with
  | '\x7d' :: rest => some (cs.takeWhile fun c => !isBrace c, rest)
  | _ => none

theorem length_name? {cs name rest : List Char} (h : name? cs = some (name, rest)) :
    rest.length < cs.length := by
  unfold name? at h
  split at h
  · next rest' hd =>
    simp only [Option.some.injEq, Prod.mk.injEq] at h
    have hl := congrArg List.length (List.takeWhile_append_dropWhile
      (p := fun c => !isBrace c) (l := cs))
    rw [hd, List.length_append] at hl
    simp only [List.length_cons] at hl
    rw [← h.2]
    omega
  · simp at h

def renderChars (context : Context) (cs : List Char) : List Char :=
  match cs with
  | [] => []
  | '\x7b' :: '\x7b' :: rest => '\x7b' :: renderChars context rest
  | '\x7d' :: '\x7d' :: rest => '\x7d' :: renderChars context rest
  | '\x7b' :: rest =>
    match h : name? rest with
    | some (name, after) =>
      have := length_name? h
      (context.value (String.ofList name)).toList ++ renderChars context after
    | none => '\x7b' :: renderChars context rest
  | c :: rest => c :: renderChars context rest
termination_by cs.length
decreasing_by
  all_goals simp_wf
  all_goals omega

def render (context : Context) (template : String) : String :=
  String.ofList (renderChars context template.toList)

/-- Writes a brace twice wherever it stands. -/
def double (brace : Char) (cs : List Char) : List Char :=
  cs.flatMap fun c => if c = brace then [c, c] else [c]

/-- A template that renders to the given text in every context. -/
def escape (s : String) : String := String.ofList (double '\x7d' (double '\x7b' s.toList))

end Parley.Template
