import Parley.Text.Property
import Parley.Text.Recent

/-!
# Quoted text in messages

`quoted` puts a text between double quotes. Quotes, backslashes and the usual controls are written
with a backslash; what cannot be seen by itself (controls, formats, unassigned characters, fillers,
marks that attach to the character before them) is written by its code point.
-/

namespace Parley.Text

def codePointEscape (c : Char) : List Char :=
  "\\u\x7b".toList ++ Nat.toDigits 16 c.toNat ++ ['\x7d']

/-- Marks that attach to the character before them. The two Katakana voicing signs of half width
stand by themselves. -/
def isAttached (c : Char) : Bool :=
  (Category.graphemeExtend.hasChar c || Recent.graphemeExtend.hasChar c) &&
    !Category.modifierLetter.hasChar c

/-- Whether a character shows as itself. -/
def isVisible (c : Char) : Bool :=
  if c.toNat < 0x7f then 0x20 ≤ c.toNat
  else (!Category.unprintable.hasChar c || Recent.assigned.hasChar c) && !isAttached c &&
    !Property.defaultIgnorableCodePoint.hasChar c

def quotedChar (c : Char) : List Char :=
  if c = '\x00' then ['\\', '0']
  else if c = '\t' then ['\\', 't']
  else if c = '\r' then ['\\', 'r']
  else if c = '\n' then ['\\', 'n']
  else if c = '\\' then ['\\', '\\']
  else if c = '"' then ['\\', '"']
  else if isVisible c then [c]
  else codePointEscape c

def quoted (s : String) : String :=
  String.ofList ('"' :: s.toList.flatMap quotedChar ++ ['"'])

end Parley.Text
