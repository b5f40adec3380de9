import Parley.Error

/-!
# Slots

A slot is the place of a store's file on a disk. It may be empty, hold a text, or be taken by a
folder, and then nothing can be read or written there. A disk may also refuse to write.
-/

namespace Parley

inductive Slot.Entry
  | absent
  | file (text : String)
  | folder
  deriving DecidableEq

structure Slot where
  entry : Slot.Entry := .absent
  /-- The folder around the slot is there. -/
  hasParent : Bool := true
  /-- What a write meets, if the disk refuses it. -/
  refusal : Option StoreError := none
  deriving DecidableEq

namespace Slot

def isFolder : StoreError := .io "Is a directory (os error 21)"

/-- The text in the slot, if there is one. -/
def text? (s : Slot) : Option String :=
  match s.entry with
  | .file text => some text
  | _ => none

/-- The text in the slot, or none if the slot is empty. -/
def read (s : Slot) : Except StoreError (Option String) :=
  match s.entry with
  | .absent => .ok none
  | .file text => .ok (some text)
  | .folder => .error isFolder

/-- Puts a text into the slot, which stays as it was if that fails. -/
def write (s : Slot) (text : String) : Except StoreError Slot :=
  match s.refusal, s.entry with
  | some e, _ => .error e
  | none, .folder => .error isFolder
  | none, _ => .ok { s with entry := .file text, hasParent := true }

/-- Puts a folder in place of the file. -/
def block (s : Slot) : Slot := { s with entry := .folder, hasParent := true }

/-- Takes the folder away, if there is one. -/
def unblock (s : Slot) : Bool × Slot :=
  if s.entry = .folder then (true, { s with entry := .absent }) else (false, s)

/-- Writes past the store that owns the slot. -/
def overwrite (s : Slot) (text : String) : Bool × Slot :=
  if s.entry = .folder ∨ !s.hasParent then (false, s) else (true, { s with entry := .file text })

end Slot

end Parley
