import Parley.Text.Property

/-!
# Parts of sentences

The Unicode property Sentence_Break: the roles characters play where sentences meet, and the names
by which a pattern may ask for one. The role of all other characters has no name.
-/

namespace Parley.Text.SentenceBreak

open Ranges Category Property

def extend : Ranges := graphemeExtend ++ spacingMark ++ ofText "200d"

def numeric : Ranges :=
  decimalNumber ++ diff prependedConcatenationMark (ofText "70f") ++ ofText "66b-66c 19da"

def format : Ranges := diff Category.format (numeric ++ extend ++ ofText "200c")

/-- Georgian small letters, which come in pairs with capitals, and count as neither. -/
def georgian : Ranges := ofText "10d0-10fa 10fd-10ff 1c90-1cba 1cbd-1cbf"

def lower : Ranges := diff lowercase (graphemeExtend ++ georgian)

def upper : Ranges := diff (uppercase ++ titlecaseLetter) georgian

def otherLetter : Ranges := diff alphabetic (lower ++ upper ++ extend) ++ ofText "5f3"

def ambiguousTerm : Ranges := ofText "2e 2024 fe52 ff0e"

def term : Ranges := diff sentenceTerminal ambiguousTerm

def goesOn : Ranges := ofText
  "2c-2d 3a-3b 37e 55d 60c-60d 7f8 1802 1808 2013-2014 3001 fe10-fe11 fe13-fe14 fe31-fe32 fe50-fe51
fe54-fe55 fe58 fe63 ff0c-ff0d ff1a-ff1b ff64"

def close : Ranges :=
  openPunctuation ++ closePunctuation ++ initialPunctuation ++ finalPunctuation ++
    ofText "22 27 275b-2760 2e00-2e01 2e06-2e08 2e0b 1f676-1f678"

def separator : Ranges := ofText "85 2028-2029"

def space : Ranges := diff whiteSpace (separator ++ ofText "a d")

/-- The roles by name, in lower case and without separators. -/
def named : List (List String × (Unit → Ranges)) :=
  [(["cr"], fun _ => single '\r'), (["lf"], fun _ => single '\n'),
    (["sep", "se"], fun _ => separator), (["extend", "ex"], fun _ => extend),
    (["format", "fo"], fun _ => format), (["sp"], fun _ => space),
    (["lower", "lo"], fun _ => lower), (["upper", "up"], fun _ => upper),
    (["oletter", "le"], fun _ => otherLetter), (["numeric", "nu"], fun _ => numeric),
    (["aterm", "at"], fun _ => ambiguousTerm), (["sterm", "st"], fun _ => term),
    (["scontinue", "sc"], fun _ => goesOn), (["close", "cl"], fun _ => close)]

def find? (name : String) : Option Ranges :=
  (named.find? fun (names, _) => names.contains name).map fun (_, r) => r ()

end Parley.Text.SentenceBreak
