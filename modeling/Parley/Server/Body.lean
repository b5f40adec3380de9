import Parley.Server.World

/-!
# Bodies of responses

A body is bytes that are known, or a reply that is still relayed from a model's stream. `pull` gets
the next chunk of a body out of the world, and `abandon` drops a body, which leaves the message of a
reply that is not settled to be deleted in the background.
-/

namespace Parley

inductive Body
  | bytes (chunks : List Reply.Bytes)
  | reply (relay : Relay) (stream : Stream)

namespace Body

def ofText (s : String) : Body := bytes (if s = "" then [] else [Text.Utf8.ofString s])

/-- The body for a turn. Without a message to keep the reply in, the reply is a failure at once. -/
def ofTurn (t : Turn) (s : Stream) : Body :=
  match Relay.ofTurn? t with
  | some relay => reply relay s
  | none => bytes [Reply.encodeStatus .failure]

/-- No more chunks than this come. -/
def bound : Body → Nat
  | bytes chunks => chunks.length
  | reply _ stream => stream.feed.items.length + 1

end Body

/-- What is got from a body: a chunk, its end, or nothing before the cutoff. -/
inductive Pull
  | chunk (bytes : Reply.Bytes)
  | over
  | pending
  deriving DecidableEq

theorem Stream.length_next {s next : Stream} {now t : Nat} {cancelAt : Option Nat} {text : String}
    (h : s.next now cancelAt = (some (.ok text), t, next)) :
    next.feed.items.length < s.feed.items.length := by
  unfold Stream.next at h
  simp only at h
  split at h
  · simp at h
  · split at h
    · split at h <;> simp at h
    · next item rest hitems =>
      split at h
      · split at h
        · simp only [Prod.mk.injEq] at h
          obtain ⟨_, _, rfl⟩ := h
          simp [hitems]
        · simp at h
      · simp at h
      · simp at h

namespace World

/-- Gives up the message of a reply, which settles the relay. -/
def discard (w : World) (r : Relay) : Pull × Relay × World :=
  match w.askChats (.deleteMessage r.messageId) with
  | (none, w) => (.pending, r, w)
  | (some outcome, w) => let (r, bytes) := r.step (.discarded outcome); (.chunk bytes, r, w)

/-- Writes the reply into its message, and gives the message up if that cannot be done. -/
def save (w : World) (r : Relay) : Pull × Relay × World :=
  match w.askChats (.updateMessage r.messageId r.turn.aiText) with
  | (none, w) => (.pending, r, w)
  | (some outcome, w) =>
    let (r, bytes) := r.step (.saved outcome)
    if r.phase = .discarding then w.discard r else (.chunk bytes, r, w)

/-- Listens to the model until there is something to send. -/
def listen (w : World) (r : Relay) (s : Stream) : Pull × Relay × Stream × World :=
  match h : s.next w.now w.cancelAt with
  | (item, t, next) =>
    match w.wait t with
    | (false, w) => (.pending, r, s, w)
    | (true, w) =>
      match item with
      | some (.ok text) =>
        let (r, bytes) := r.step (.delta text)
        have := Stream.length_next h
        if bytes.isEmpty then w.listen r next else (.chunk bytes, r, next, w)
      | some (.error _) => let (p, r, w) := w.discard (r.step .failed).1; (p, r, next, w)
      | none => let (p, r, w) := w.save (r.step .ended).1; (p, r, next, w)
termination_by s.feed.items.length

def pull (w : World) : Body → Pull × Body × World
  | .bytes [] => (.over, .bytes [], w)
  | .bytes (chunk :: rest) => (.chunk chunk, .bytes rest, w)
  | .reply r s =>
    match r.phase with
    | .listening => let (p, r, s, w) := w.listen r s; (p, .reply r s, w)
    | .saving => let (p, r, w) := w.save r; (p, .reply r s, w)
    | .discarding => let (p, r, w) := w.discard r; (p, .reply r s, w)
    | .settled => (.over, .reply r s, w)

/-- The chunks that up to `n` pulls get, and whether the body ended. -/
def pulls (w : World) (b : Body) : (n : Nat) → List Reply.Bytes × Bool × Body × World
  | 0 => ([], false, b, w)
  | n + 1 =>
    match w.pull b with
    | (.chunk bytes, b, w) =>
      let (chunks, ended, b, w) := w.pulls b n
      (bytes :: chunks, ended, b, w)
    | (.over, b, w) => ([], true, b, w)
    | (.pending, b, w) => ([], false, b, w)

/-- Reads a body, to its end or up to `most` chunks. -/
def read (w : World) (b : Body) (most : Option Nat) : List Reply.Bytes × Bool × Body × World :=
  w.pulls b (most.getD (b.bound + 1))

/-- Pulls once more, but waits no longer than `length`. -/
def pullWithin (w : World) (b : Body) (length : Nat) : Pull × Body × World :=
  let (p, b, w') := { w with cutoff := some (w.now + length) }.pull b
  (p, b, { w' with cutoff := w.cutoff })

/-- Drops a body. If it was a reply that is not settled, the model's work is called off. -/
def abandon (w : World) : Body → World
  | .bytes _ => w
  | .reply r _ =>
    if r.isArmed then
      let due := w.now + (w.trouble .deleteMessage).delay
      let (mishap, w) := w.begin .deleteMessage
      { w with cancelAt := some w.now, cleanups := w.cleanups ++ [⟨due, r.messageId, mishap⟩] }
    else w

end World

end Parley
