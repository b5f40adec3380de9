import Parley.Text.Script
import Parley.Text.SentenceBreak

/-!
# Parts of words

The Unicode property Word_Break: the roles characters play where words meet, and the names by which
a pattern may ask for one. The role of all other characters has no name.
-/

namespace Parley.Text.WordBreak

open Ranges Category Property

def extend : Ranges := diff SentenceBreak.extend (ofText "200d") ++ emojiModifier

def format : Ranges := diff SentenceBreak.format (ofText "70f 200b")

def numeric : Ranges := diff SentenceBreak.numeric (ofText "66c")

def hebrewLetter : Ranges := inter ((Script.find? "hebr").getD []) otherLetter

def katakana : Ranges :=
  (Script.find? "kana").getD [] ++ ofText "3031-3035 309b-309c 30a0 30fc ff70"

/-- Letters of scripts that write no blanks between words. -/
def unspaced : Ranges :=
  ["hira", "khmr", "laoo", "mymr", "thai"].flatMap (fun s => (Script.find? s).getD []) ++ ofText
    "1950-196d 1970-1974 1980-19ab 19b0-19c9 1a20-1a54 1aa7 aa80-aaaf aab1 aab5-aab6 aab9-aabd aac0
aac2 aadb-aadd 11700-1171a 11740-11746"

def letter : Ranges :=
  diff alphabetic (ideographic ++ katakana ++ extend ++ hebrewLetter ++ unspaced) ++ ofText
    "2c2-2c5 2d2-2d7 2de-2df 2e5-2eb 2ed 2ef-2ff 55a-55c 55e 58a 5f3 70f a708-a716 a720-a721
a789-a78a ab5b"

/-- The roles by name, in lower case and without separators. -/
def named : List (List String × (Unit → Ranges)) :=
  [(["cr"], fun _ => single '\r'), (["lf"], fun _ => single '\n'),
    (["newline", "nl"], fun _ => ofText "b-c 85 2028-2029"),
    (["extend"], fun _ => extend), (["zwj"], fun _ => ofText "200d"),
    (["regionalindicator", "ri"], fun _ => regionalIndicator),
    (["format", "fo"], fun _ => format), (["katakana", "ka"], fun _ => katakana),
    (["hebrewletter", "hl"], fun _ => hebrewLetter), (["aletter", "le"], fun _ => letter),
    (["singlequote", "sq"], fun _ => single '\''), (["doublequote", "dq"], fun _ => single '"'),
    (["midnumlet", "mb"], fun _ => ofText "2e 2018-2019 2024 fe52 ff07 ff0e"),
    (["midletter", "ml"], fun _ => ofText "3a b7 387 55f 5f4 2027 fe13 fe55 ff1a"),
    (["midnum", "mn"],
      fun _ => ofText "2c 3b 37e 589 60c-60d 66c 7f8 2044 fe50 fe54 ff0c ff1b"),
    (["numeric", "nu"], fun _ => numeric),
    (["extendnumlet", "ex"], fun _ => connectorPunctuation ++ ofText "202f"),
    (["wsegspace"], fun _ => ofText "20 1680 2000-2006 2008-200a 205f 3000")]

def find? (name : String) : Option Ranges :=
  (named.find? fun (names, _) => names.contains name).map fun (_, r) => r ()

end Parley.Text.WordBreak
