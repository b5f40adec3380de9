/-!
# JSON values

`Json` holds what a reader makes of any text. Names and texts are kept as read; a numeral is kept
as written. Two constructors stand for text that is not JSON: `garbled` for a string literal that
denotes no text (a lone surrogate) or a numeral that denotes no number (it is too large), and `torn`
for the place where the text stops being JSON.
-/

namespace Parley

inductive Json
  | null
  | bool (b : Bool)
  | number (numeral : String)
  | text (s : String)
  | list (items : List Json)
  | record (members : List (Option String × Json))
  | garbled
  | torn
  deriving Inhabited

namespace Json

/-- A record whose names are all proper texts. -/
def object (members : List (String × Json)) : Json :=
  .record (members.map fun (name, value) => (some name, value))

def nat (n : Nat) : Json := .number (toString n)

def ofOption {α : Type} (f : α → Json) : Option α → Json
  | none => .null
  | some a => f a

/-- The value of a member, the last one if the name repeats. -/
def get? (name : String) : Json → Option Json
  | .record members => (members.reverse.find? fun m => m.1 == some name).map (·.2)
  | _ => none

mutual

/-- No place inside where the text stops being JSON. -/
def whole : Json → Bool
  | .torn => false
  | .list items => wholeItems items
  | .record members => wholeMembers members
  | _ => true

def wholeItems : List Json → Bool
  | [] => true
  | x :: xs => whole x && wholeItems xs

def wholeMembers : List (Option String × Json) → Bool
  | [] => true
  | (_, x) :: ms => whole x && wholeMembers ms

end

mutual

/-- Every name, text and number inside is a proper one. -/
def clean : Json → Bool
  | .torn => false
  | .garbled => false
  | .list items => cleanItems items
  | .record members => cleanMembers members
  | _ => true

def cleanItems : List Json → Bool
  | [] => true
  | x :: xs => clean x && cleanItems xs

def cleanMembers : List (Option String × Json) → Bool
  | [] => true
  | (name, x) :: ms => name.isSome && clean x && cleanMembers ms

end

mutual

/-- How deep lists and records are nested. -/
def depth : Json → Nat
  | .list items => depthItems items + 1
  | .record members => depthMembers members + 1
  | _ => 0

def depthItems : List Json → Nat
  | [] => 0
  | x :: xs => max (depth x) (depthItems xs)

def depthMembers : List (Option String × Json) → Nat
  | [] => 0
  | (_, x) :: ms => max (depth x) (depthMembers ms)

end

end Json

end Parley
