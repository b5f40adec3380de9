import Parley.Text.Property

/-!
# Parts of what a reader takes for one character

The Unicode property Grapheme_Cluster_Break: the roles characters play in clusters such as a letter
with its accents, and the names by which a pattern may ask for one. The role of all other characters
has no name.
-/

namespace Parley.Text.GraphemeBreak

open Ranges Category Property

def extend : Ranges := graphemeExtend ++ emojiModifier

def prepended : Ranges :=
  prependedConcatenationMark ++ ofText "d4e 111c2-111c3 113d1 1193f 11941 11a3a 11a84-11a89 11d46
11f02"

def control : Ranges :=
  diff (Category.control ++ format ++ lineSeparator ++ paragraphSeparator ++
    inter defaultIgnorableCodePoint unassigned)
    (extend ++ prependedConcatenationMark ++ ofText "a d 200d")

def spacing : Ranges :=
  diff (spacingMark ++ ofText "e33 eb3") (extend ++ ofText "102b-102c 1038 1062-1064 1067-106d 1083
1087-108c 108f 109a-109c 1a61 1a63-1a64 aa7b aa7d 11720-11721")

/-- Hangul syllables without a final consonant: every 28th of them. -/
def openSyllable : Ranges :=
  (List.range 399).map fun i => (0xac00 + 28 * i, 0xac00 + 28 * i)

def closedSyllable : Ranges := diff [(0xac00, 0xd7a3)] openSyllable

/-- The roles by name, in lower case and without separators. -/
def named : List (List String × (Unit → Ranges)) :=
  [(["cr"], fun _ => single '\r'), (["lf"], fun _ => single '\n'),
    (["control", "cn"], fun _ => control), (["extend", "ex"], fun _ => extend),
    (["zwj"], fun _ => ofText "200d"),
    (["regionalindicator", "ri"], fun _ => regionalIndicator),
    (["prepend", "pp"], fun _ => prepended), (["spacingmark", "sm"], fun _ => spacing),
    (["l"], fun _ => ofText "1100-115f a960-a97c"),
    (["v"], fun _ => ofText "1160-11a7 d7b0-d7c6 16d63 16d67-16d6a"),
    (["t"], fun _ => ofText "11a8-11ff d7cb-d7fb"),
    (["lv"], fun _ => openSyllable), (["lvt"], fun _ => closedSyllable)]

def find? (name : String) : Option Ranges :=
  (named.find? fun (names, _) => names.contains name).map fun (_, r) => r ()

end Parley.Text.GraphemeBreak
