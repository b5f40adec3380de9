/-!
# UTF-8

Bytes are read one at a time: `held` is a character of which the rest has not come yet, and every
byte either completes it, extends it, or shows that it was malformed. `Piece`s are the characters
and the malformed runs found on the way, and their bytes together are the bytes read. All other
readings (valid text, longest valid prefix, text with replacement characters) are made from pieces.
-/

namespace Parley.Text.Utf8

/-- What a few bytes are by themselves. -/
inductive Form
  | char (c : Char)
  | unfinished
  | malformed
  deriving DecidableEq

def isContinuation (b : UInt8) : Bool := 0x80 ≤ b && b ≤ 0xbf

/-- Which second bytes may follow a first byte: no overlong forms, no surrogates, nothing above
the last code point. -/
def isSecond (a b : UInt8) : Bool :=
  if a = 0xe0 then 0xa0 ≤ b && b ≤ 0xbf
  else if a = 0xed then 0x80 ≤ b && b ≤ 0x9f
  else if a = 0xf0 then 0x90 ≤ b && b ≤ 0xbf
  else if a = 0xf4 then 0x80 ≤ b && b ≤ 0x8f
  else 0xc2 ≤ a && a ≤ 0xf4 && isContinuation b

def low (b : UInt8) : Nat := b.toNat % 64

def form : List UInt8 → Form
  | [] => .unfinished
  | [a] =>
    if a < 0x80 then .char (Char.ofNat a.toNat)
    else if 0xc2 ≤ a && a ≤ 0xf4 then .unfinished else .malformed
  | [a, b] =>
    if isSecond a b then
      if a < 0xe0 then .char (Char.ofNat (a.toNat % 32 * 64 + low b)) else .unfinished
    else .malformed
  | [a, b, c] =>
    if 0xe0 ≤ a && isSecond a b && isContinuation c then
      if a < 0xf0 then .char (Char.ofNat (a.toNat % 16 * 4096 + low b * 64 + low c))
      else .unfinished
    else .malformed
  | [a, b, c, d] =>
    if 0xf0 ≤ a && isSecond a b && isContinuation c && isContinuation d then
      .char (Char.ofNat (a.toNat % 8 * 262144 + low b * 4096 + low c * 64 + low d))
    else .malformed
  | _ => .malformed

/-- A part of what was read. -/
inductive Piece
  | char (c : Char)
  | bad (bytes : List UInt8)
  deriving DecidableEq

def encodeChar (c : Char) : List UInt8 := String.utf8EncodeChar c

def encode (cs : List Char) : List UInt8 := cs.flatMap encodeChar

def Piece.bytes : Piece → List UInt8
  | .char c => encodeChar c
  | .bad bs => bs

/-- A byte that starts afresh. -/
def start (b : UInt8) : List Piece × List UInt8 :=
  match form [b] with
  | .char c => ([.char c], [])
  | .unfinished => ([], [b])
  | .malformed => ([.bad [b]], [])

/-- One byte after the held ones. A byte that cannot continue them starts afresh. -/
def step (held : List UInt8) (b : UInt8) : List Piece × List UInt8 :=
  match held with
  | [] => start b
  | _ =>
    match form (held ++ [b]) with
    | .char c => ([.char c], [])
    | .unfinished => ([], held ++ [b])
    | .malformed => (.bad held :: (start b).1, (start b).2)

/-- The pieces of some bytes and the unfinished character at their end. -/
def scan (held : List UInt8) : List UInt8 → List Piece × List UInt8
  | [] => ([], held)
  | b :: bs =>
    let (ps, held') := step held b
    let (qs, held'') := scan held' bs
    (ps ++ qs, held'')

theorem scan_append (held xs ys : List UInt8) :
    scan held (xs ++ ys) =
      ((scan held xs).1 ++ (scan (scan held xs).2 ys).1, (scan (scan held xs).2 ys).2) := by
  induction xs generalizing held with
  | nil => simp [scan]
  | cons x xs ih => simp [scan, ih, List.append_assoc]

/-- Why bytes are not text: the position, and the length of the malformed run, or none when they
stop inside a character. -/
structure Flaw where
  index : Nat
  length : Option Nat
  deriving DecidableEq

/-- The characters in front of the first malformed run, how many bytes they take, and that run. -/
def leading : List Piece → List Char × Option (List UInt8)
  | [] => ([], none)
  | .char c :: ps => let (cs, bad) := leading ps; (c :: cs, bad)
  | .bad bs :: _ => ([], some bs)

/-- The longest valid prefix and what is wrong after it. -/
def validPrefix (bs : List UInt8) : List Char × Option Flaw :=
  let (ps, held) := scan [] bs
  let (cs, bad) := leading ps
  match bad with
  | some run => (cs, some ⟨(encode cs).length, some run.length⟩)
  | none => (cs, if held.isEmpty then none else some ⟨(encode cs).length, none⟩)

def decode? (bs : List UInt8) : Option (List Char) :=
  match validPrefix bs with
  | (cs, none) => some cs
  | _ => none

def replacement : Char := '\ufffd'

def Piece.lossy : Piece → Char
  | .char c => c
  | .bad _ => replacement

/-- The text with a replacement character for every malformed run. -/
def decodeLossy (bs : List UInt8) : List Char :=
  let (ps, held) := scan [] bs
  ps.map Piece.lossy ++ if held.isEmpty then [] else [replacement]

def Flaw.message (f : Flaw) : String :=
  match f.length with
  | some n => s!"invalid utf-8 sequence of {n} bytes from index {f.index}"
  | none => s!"incomplete utf-8 byte sequence from index {f.index}"

def ofString (s : String) : List UInt8 := encode s.toList

def toStringLossy (bs : List UInt8) : String := String.ofList (decodeLossy bs)

def toString? (bs : List UInt8) : Option String := (decode? bs).map String.ofList

end Parley.Text.Utf8
