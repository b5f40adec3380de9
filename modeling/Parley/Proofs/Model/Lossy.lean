import Parley.Proofs.Model.Events
import Parley.Proofs.Text.Lossy

/-!
# Malformed bytes in a body

A buffer waits for the rest of a character, unless there are malformed bytes in front of it: then
the part of the character that is there is read as malformed as well, and so is the rest when it
comes. `Torn` says that this happens. Apart from it the text of a body is given out as the lossy
text of its bytes, wherever they are cut (`given_eq_lossy`).
-/

namespace Parley.EventBuffer

open Text

variable {b : EventBuffer} {held chunk : List UInt8} {chunks : List (List UInt8)} {cs : List Char}

/-- What is left when the bytes end, also if it is blank. -/
def remainder (b : EventBuffer) : List Char :=
  b.finish.getD (dropReturns (b.text ++ Utf8.decodeLossy b.pending))

lemma remainder_eq (b : EventBuffer) :
    b.remainder = dropReturns (b.text ++ Utf8.decodeLossy b.pending) := by
  simp only [remainder, finish]
  split_ifs <;> rfl

/-- All text that comes of some chunks: the events, one after the other, and what is left. -/
def given (b : EventBuffer) (chunks : List (List UInt8)) : List Char :=
  (b.pushAll chunks).1.flatten ++ (b.pushAll chunks).2.remainder

/-- The lossy text of some chunks as it is read: with each chunk what is readable by then. -/
def readInParts (held : List UInt8) : List (List UInt8) → List Char
  | [] => Utf8.decodeLossy held
  | chunk :: rest =>
    let bytes := held ++ chunk
    Utf8.decodeLossy (bytes.take (readable bytes)) ++ readInParts (bytes.drop (readable bytes)) rest

/-- Some chunk ends inside a character that the next bytes go on with, and is not held back, since
malformed bytes are read with it. -/
def Torn (held : List UInt8) : List (List UInt8) → Prop
  | [] => False
  | chunk :: rest =>
    let bytes := held ++ chunk
    (¬Utf8.Promising bytes ∧ Utf8.Tears bytes rest.flatten) ∨
      Torn (bytes.drop (readable bytes)) rest

instance decidableTorn (held : List UInt8) : (chunks : List (List UInt8)) →
    Decidable (Torn held chunks)
  | [] => isFalse id
  | chunk :: rest =>
    have := decidableTorn ((held ++ chunk).drop (readable (held ++ chunk))) rest
    decidable_of_iff ((¬Utf8.Promising (held ++ chunk) ∧ Utf8.Tears (held ++ chunk) rest.flatten) ∨
      Torn ((held ++ chunk).drop (readable (held ++ chunk))) rest) Iff.rfl

lemma dropReturns_of_notMem (h : '\r' ∉ cs) : dropReturns cs = cs := by
  have happend : dropReturns (cs ++ []) = cs ++ dropReturns [] := dropReturns_append_of_notMem h
  rwa [List.append_nil, dropReturns, List.append_nil] at happend

/-- One chunk adds the lossy text of what is readable with it. -/
lemma push_given (htext : '\r' ∉ b.text) (hbytes : 13 ∉ b.pending ++ chunk) :
    (b.push chunk).1.flatten ++ (b.push chunk).2.text =
      b.text ++ Utf8.decodeLossy ((b.pending ++ chunk).take (readable (b.pending ++ chunk))) := by
  have hread : '\r' ∉ Utf8.decodeLossy
      ((b.pending ++ chunk).take (readable (b.pending ++ chunk))) :=
    Utf8.return_notMem_decodeLossy fun h => hbytes (List.mem_of_mem_take h)
  have hclean := dropReturns_of_notMem fun h => (List.mem_append.1 h).elim htext hread
  have hsplits := split_splits (dropReturns (b.text ++ Utf8.decodeLossy
    ((b.pending ++ chunk).take (readable (b.pending ++ chunk)))))
  exact hsplits.text_eq.symm.trans hclean

lemma given_cons (b : EventBuffer) (chunk : List UInt8) (chunks : List (List UInt8)) :
    b.given (chunk :: chunks) = (b.push chunk).1.flatten ++ (b.push chunk).2.given chunks := by
  rw [given, pushAll, List.flatten_append, List.append_assoc]
  rfl

theorem given_eq (htext : '\r' ∉ b.text) (hbytes : 13 ∉ b.pending ++ chunks.flatten) :
    b.given chunks = b.text ++ readInParts b.pending chunks := by
  induction chunks generalizing b with
  | nil =>
    rw [List.flatten_nil, List.append_nil] at hbytes
    rw [given, pushAll, List.flatten_nil, List.nil_append, remainder_eq]
    exact dropReturns_of_notMem fun h =>
      (List.mem_append.1 h).elim htext (Utf8.return_notMem_decodeLossy hbytes)
  | cons chunk chunks ih =>
    rw [List.flatten_cons, ← List.append_assoc, List.mem_append, not_or] at hbytes
    obtain ⟨hbytes, hlater⟩ := hbytes
    have hpush := push_given htext hbytes
    have hread := Utf8.return_notMem_decodeLossy fun h =>
      hbytes (List.mem_of_mem_take (i := readable (b.pending ++ chunk)) h)
    have htext' : '\r' ∉ (b.push chunk).2.text := by
      intro hmem
      have hall := hpush ▸ List.mem_append_right (b.push chunk).1.flatten hmem
      exact (List.mem_append.1 hall).elim htext hread
    have hbytes' : 13 ∉ (b.push chunk).2.pending ++ chunks.flatten := fun hmem =>
      (List.mem_append.1 hmem).elim (fun h => hbytes (List.mem_of_mem_drop h)) hlater
    rw [given_cons, ih htext' hbytes', ← List.append_assoc, hpush, List.append_assoc]
    rfl

lemma readable_malformed {bytes : List UInt8} (h : ¬Utf8.Promising bytes) :
    readable bytes = bytes.length := by
  obtain ⟨_, _, _, hflaw⟩ := Utf8.validPrefix_malformed h
  rw [readable, hflaw]

/-- What is readable can be read by itself, unless a character is torn. -/
lemma decodeLossy_readable {bytes later : List UInt8}
    (h : ¬(¬Utf8.Promising bytes ∧ Utf8.Tears bytes later)) :
    Utf8.decodeLossy (bytes ++ later) = Utf8.decodeLossy (bytes.take (readable bytes)) ++
      Utf8.decodeLossy (bytes.drop (readable bytes) ++ later) := by
  by_cases hp : Utf8.Promising bytes
  · obtain ⟨cs, held, hscan⟩ := hp
    rw [readable_chars hscan, Utf8.eq_encode_append hscan, List.take_left, List.drop_left,
      List.append_assoc]
    exact Utf8.decodeLossy_append (Utf8.not_tears_encode cs _)
  · rw [readable_malformed hp, List.take_length, List.drop_length, List.nil_append]
    exact Utf8.decodeLossy_append fun htears => h ⟨hp, htears⟩

/-- Chunks are read as the whole is, unless they are torn. If they are, more characters are read. -/
theorem readInParts_eq (held : List UInt8) (chunks : List (List UInt8)) :
    (¬Torn held chunks → readInParts held chunks = Utf8.decodeLossy (held ++ chunks.flatten)) ∧
    (Torn held chunks →
      (Utf8.decodeLossy (held ++ chunks.flatten)).length < (readInParts held chunks).length) := by
  induction chunks generalizing held with
  | nil =>
    rw [List.flatten_nil, List.append_nil]
    exact ⟨fun _ => rfl, False.elim⟩
  | cons chunk chunks ih =>
    rw [List.flatten_cons, ← List.append_assoc, Torn, readInParts]
    generalize held ++ chunk = bytes
    obtain ⟨hwhole, hmore⟩ := ih (bytes.drop (readable bytes))
    by_cases hhere : ¬Utf8.Promising bytes ∧ Utf8.Tears bytes chunks.flatten
    · -- One character more comes of the torn one, and what follows is no shorter.
      refine ⟨fun h => absurd (Or.inl hhere) h, fun _ => ?_⟩
      have hless := Utf8.length_decodeLossy_append_lt hhere.2
      simp only [readable_malformed hhere.1, List.take_length, List.drop_length,
        List.nil_append] at hwhole hmore ⊢
      have hlater : (Utf8.decodeLossy chunks.flatten).length ≤
          (readInParts [] chunks).length := by
        by_cases htorn : Torn [] chunks
        · exact (hmore htorn).le
        · exact (congrArg List.length (hwhole htorn)).ge
      rw [List.length_append]
      omega
    · rw [decodeLossy_readable hhere]
      simp only [hhere, false_or]
      refine ⟨fun h => congrArg (_ ++ ·) (hwhole h), fun h => ?_⟩
      have hless := hmore h
      rw [List.length_append, List.length_append]
      omega

/-- Nothing is torn where no bytes are malformed. -/
lemma not_torn_of_promising (h : Utf8.Promising (held ++ chunks.flatten)) : ¬Torn held chunks := by
  induction chunks generalizing held with
  | nil => exact id
  | cons chunk chunks ih =>
    rw [List.flatten_cons, ← List.append_assoc] at h
    rw [Torn]
    generalize held ++ chunk = bytes at h ⊢
    obtain ⟨cs, part, hscan⟩ := h.left
    rintro (⟨hbad, -⟩ | hlater)
    · exact hbad h.left
    · refine ih ?_ hlater
      rw [readable_chars hscan]
      rw [Utf8.eq_encode_append hscan, List.append_assoc] at h
      rw [Utf8.eq_encode_append hscan, List.drop_left]
      exact Utf8.promising_of_encode_append h

/-- The text that is given out of a body without returns is the lossy text of its bytes, unless a
character is torn by a cut behind malformed bytes. If one is, there are more characters in the text
that is given out. -/
theorem given_eq_lossy (hcr : 13 ∉ chunks.flatten) :
    (¬Torn [] chunks → given {} chunks = Utf8.decodeLossy chunks.flatten) ∧
    (Torn [] chunks → ¬Utf8.Promising chunks.flatten ∧
      (Utf8.decodeLossy chunks.flatten).length < (given {} chunks).length) := by
  have hgiven : given {} chunks = readInParts [] chunks := given_eq (by simp) hcr
  obtain ⟨hwhole, hmore⟩ := readInParts_eq [] chunks
  rw [hgiven]
  exact ⟨hwhole, fun h => ⟨fun hp => not_torn_of_promising hp h, hmore h⟩⟩

/-- A letter in two halves is read whole behind a malformed byte in a chunk of its own, and is torn
if the malformed byte comes with its first half. -/
theorem given_eq_lossy_both :
    (¬Torn [] [[0xff], [0xc3], [0xa9]] ∧ given {} [[0xff], [0xc3], [0xa9]] = ['\ufffd', 'é']) ∧
    Torn [] [[0xff, 0xc3], [0xa9]] ∧ 2 < (given {} [[0xff, 0xc3], [0xa9]]).length := by
  have hwhole : ¬Torn [] [[0xff], [0xc3], [0xa9]] := by decide
  have htorn : Torn [] [[0xff, 0xc3], [0xa9]] := by decide
  exact ⟨⟨hwhole, (given_eq_lossy (by decide)).1 hwhole⟩, htorn,
    ((given_eq_lossy (by decide)).2 htorn).2⟩

/-- Malformed bytes may damage a character elsewhere: with its second half in the next chunk the
letter becomes two replacement characters. -/
theorem given_ne_lossy :
    ¬∀ chunks : List (List UInt8), 13 ∉ chunks.flatten →
      given {} chunks = Utf8.decodeLossy chunks.flatten := by
  intro h
  have hgiven := h [[0xff, 0xc3], [0xa9]] (by decide)
  rw [given_eq (by simp) (by decide)] at hgiven
  exact absurd hgiven (by decide)

end Parley.EventBuffer
