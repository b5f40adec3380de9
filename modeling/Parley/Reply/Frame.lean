import Parley.Json.Decoder
import Parley.Text.Utf8

/-!
# Frames of a reply

The body of a reply is text, then a mark that no text contains, then one word that says whether the
reply is complete. Texts lose their NUL characters, which the mark starts with.
-/

namespace Parley.Reply

open Text

abbrev Bytes := List UInt8

inductive Status
  | success
  | failure
  deriving DecidableEq, Inhabited

namespace Status

def name : Status → String
  | success => "success"
  | failure => "failure"

def isSuccess : Status → Bool
  | success => true
  | failure => false

def token (s : Status) : Bytes := Utf8.ofString s.name

def toJson (s : Status) : Json := .text s.name

def decoder : Json.Decoder Status := Json.asCase [("success", success), ("failure", failure)]

end Status

/-- The mark between text and status: NUL and a line feed. -/
def sentinel : Bytes := [0, 10]

/-- The characters that are sent. -/
def visible (cs : List Char) : List Char := cs.filter (· ≠ '\x00')

def encodeContent (text : String) : Bytes := Utf8.encode (visible text.toList)

def encodeStatus (s : Status) : Bytes := sentinel ++ s.token

end Parley.Reply
