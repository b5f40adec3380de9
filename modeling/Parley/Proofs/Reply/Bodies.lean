import Parley.Proofs.Reply.Decoding

/-!
# Decoding whole bodies

A body is decoded up to its status, to its first fault or to its end. What that brings is determined
by the bytes that were received: `Outcome` has one case for replies and one for everything else.
-/

namespace Parley.Reply

/-- The bytes of a body up to the first chunk that cannot be read. -/
def received : List Chunk → Bytes
  | [] => []
  | .error _ :: _ => []
  | .ok chunk :: rest => chunk ++ received rest

/-- What decoding some bytes may bring: the texts and the status of a reply, or texts and one fault
where there is no reply. -/
inductive Outcome (bytes : Bytes) : List (Except ProtocolFault Frame) → Prop
  | complete {texts : List String} {s : Status} (hframed : Framed (String.join texts) s bytes) :
      Outcome bytes (texts.map (fun t => .ok (.text t)) ++ [.ok (.status s)])
  | broken {texts : List String} {e : ProtocolFault} (hnone : ∀ text s, ¬Framed text s bytes) :
      Outcome bytes (texts.map (fun t => .ok (.text t)) ++ [.error e])

/-- A decoder that still expects something has only given out texts, and has not read a reply. -/
lemma Follows.unfinished {bytes : Bytes} {frames : List Frame} {d : Decoder}
    (h : Follows bytes frames d) (hd : d.stage ≠ .done) :
    (∃ texts : List String, frames = texts.map .text) ∧ ∀ text s, ¬Framed text s bytes := by
  cases h with
  | @streaming _ _ texts hclear =>
    refine ⟨⟨texts, rfl⟩, fun text s hframed => ?_⟩
    obtain ⟨rest, hsplit⟩ := framed_iff.1 hframed
    simp [hclear] at hsplit
  | @statusPending held texts hpending hpart =>
    refine ⟨⟨texts, rfl⟩, fun text s hframed => ?_⟩
    obtain ⟨rest, hsplit⟩ := framed_iff.1 hframed
    rw [hsplit, Option.some.injEq, Prod.mk.injEq] at hpending
    rw [← hpending.2, readStatus_token] at hpart
    simp at hpart
  | done => exact absurd rfl hd

lemma outcome_done {bytes : Bytes} {frames : List Frame} {d : Decoder}
    (h : Follows bytes frames d) (hd : d.stage = .done) (more : Bytes) :
    Outcome (bytes ++ more) (frames.map .ok ++ []) := by
  cases h with
  | done hframed =>
    rw [List.append_nil, List.map_append, List.map_map]
    exact .complete (hframed.append more)
  | streaming => simp at hd
  | statusPending => simp at hd

lemma outcome_error {bytes received : Bytes} {frames : List Frame} {d : Decoder}
    (h : Follows bytes frames d) (hd : d.stage ≠ .done) (hnone : ∀ text s, ¬Framed text s received)
    (e : ProtocolFault) : Outcome received (frames.map .ok ++ [.error e]) := by
  obtain ⟨⟨texts, rfl⟩, _⟩ := h.unfinished hd
  rw [List.map_map]
  exact .broken hnone

lemma finish_error {d : Decoder} (hd : d.stage ≠ .done) : ∃ e, d.finish = .error e := by
  unfold Decoder.finish
  split
  · contradiction
  · exact ⟨_, rfl⟩
  · exact ⟨_, rfl⟩

theorem decodeFrom_outcome {bytes : Bytes} {frames : List Frame} {d : Decoder}
    (h : Follows bytes frames d) (hd : d.stage ≠ .done) (body : List Chunk) :
    Outcome (bytes ++ received body) (frames.map .ok ++ decodeFrom d body) := by
  induction body generalizing bytes frames d with
  | nil =>
    obtain ⟨e, he⟩ := finish_error hd
    rw [received, decodeFrom, he, List.append_nil]
    exact outcome_error h hd (h.unfinished hd).2 e
  | cons chunk body ih =>
    cases chunk with
    | error detail =>
      rw [received, decodeFrom, List.append_nil]
      exact outcome_error h hd (h.unfinished hd).2 _
    | ok chunk =>
      have hpush := push_follows h chunk
      rw [received, decodeFrom, ← List.append_assoc]
      rcases hp : d.push chunk with ⟨e | new, d'⟩ <;> rw [hp] at hpush
      · exact outcome_error h hd (hpush (received body)) e
      · dsimp only
        rw [← List.append_assoc, ← List.map_append]
        split_ifs with hdone
        · exact outcome_done hpush hdone (received body)
        · exact ih hpush hdone

theorem decode_outcome (body : List Chunk) : Outcome (received body) (decode body) :=
  decodeFrom_outcome follows_nil (by decide) body

theorem status_mem_decode (body : List Chunk) (s : Status) :
    .ok (.status s) ∈ decode body ↔ ∃ text, Framed text s (received body) := by
  have houtcome := decode_outcome body
  generalize decode body = items at houtcome
  cases houtcome with
  | @complete texts s' hcomplete =>
    suffices s = s' ↔ ∃ text, Framed text s (received body) by simpa
    refine ⟨?_, fun ⟨text, hframed⟩ => (hframed.unique hcomplete).2⟩
    rintro rfl
    exact ⟨_, hcomplete⟩
  | broken hnone => simpa using fun text => hnone text s

/-- Of a reply comes its text, and its status after it. -/
lemma decode_of_framed {body : List Chunk} {text : String} {s : Status}
    (h : Framed text s (received body)) :
    ∃ texts : List String, String.join texts = text ∧
      decode body = texts.map (fun t => .ok (.text t)) ++ [.ok (.status s)] := by
  have houtcome := decode_outcome body
  generalize decode body = items at houtcome
  cases houtcome with
  | complete hcomplete =>
    obtain ⟨rfl, rfl⟩ := hcomplete.unique h
    exact ⟨_, rfl, rfl⟩
  | broken hnone => exact absurd h (hnone text s)

end Parley.Reply
