import Parley.Proofs.Server.Drop

/-!
# Answers

An `Answer` is a reply that was begun: the message that holds its place, and all that passed since
then. It is kept if its final write succeeded, and over once its relay settled or was dropped.
-/

namespace Parley

open Relay (Exchange Answered deltas)

namespace Relay

variable {r r' : Relay} {m : Id} {t : Turn} {log log' : List Exchange} {e : Event}

lemma Run.answers (h : Run r log r') : ∀ x ∈ log, Answers x.demand x.event := by
  induction h with
  | start => exact List.forall_mem_nil _
  | step _ he ih => exact List.forall_mem_append.2 ⟨ih, List.forall_mem_singleton.2 he⟩

lemma run_aiText (h : Run { messageId := m, turn := t } log r) :
    r.turn.aiText = t.textWith (deltas log) := by
  obtain ⟨ds, tail, rfl, hshape⟩ := run_shape h
  rw [hshape.aiText, deltas_heard_closing ds hshape.closing]

/-- A final write succeeded. -/
def Event.keeps : Event → Bool
  | .saved (.ok true) => true
  | _ => false

lemma Event.keeps_iff : e.keeps ↔ e = .saved (.ok true) := by
  unfold keeps
  split <;> simp_all

/-- The write that succeeded was the one of the whole text. -/
lemma run_keeps (h : Run { messageId := m, turn := t } log r) :
    log.any (·.event.keeps) ↔
      Answered log (.save m (t.textWith (deltas log))) (.saved (.ok true)) := by
  constructor
  · intro hkeeps
    obtain ⟨x, hx, hkept⟩ := List.any_eq_true.1 hkeeps
    have hevent := Event.keeps_iff.1 hkept
    have hanswers := h.answers x hx
    rw [hevent] at hanswers
    generalize hdemand : x.demand = d at hanswers
    cases hanswers with
    | saved id text =>
      have hsave : Answered log (.save id text) (.saved (.ok true)) := ⟨x, hx, hdemand, hevent⟩
      have hsettled : r.phase = .settled := (resolved_iff h).1 (.inl ⟨id, text, true, hsave⟩)
      obtain ⟨s, htruthful⟩ := run_truthful h (demand_eq_nothing_iff.2 hsettled)
      have hmem := htruthful.faithful.demand_mem x hx
      rw [hdemand] at hmem
      obtain ⟨rfl, rfl⟩ : id = m ∧ text = t.textWith (deltas log) := by simpa using hmem
      exact hsave
  · rintro ⟨x, hx, -, hevent⟩
    exact List.any_eq_true.2 ⟨x, hx, Event.keeps_iff.2 hevent⟩

end Relay

/-- A reply that was begun: the message that holds its place, the stream that it is relayed from,
and what passed since. -/
structure Answer where
  message : Message
  source : Stream
  relay : Relay
  stream : Stream
  log : List Exchange := []
  dropped : Bool := false

namespace Answer

/-- All that was heard of the reply, without the blanks at its start. -/
def text (b : Answer) : String := Text.trimStart (String.join (deltas b.log))

def isKept (b : Answer) : Bool := b.log.any (·.event.keeps)

def IsOver (b : Answer) : Prop := b.relay.phase = .settled ∨ b.dropped

/-- The message of the reply with its text, if that was kept. -/
def kept? (b : Answer) : Option Message :=
  if b.isKept then some { b.message with content := b.text } else none

lemma kept?_id {b : Answer} {m : Message} (h : b.kept? = some m) : m.id = b.message.id := by
  unfold kept? at h
  split_ifs at h
  obtain rfl := Option.some.inj h
  rfl

/-- An answer was begun with an empty message, and then went as relays go. -/
structure Sound (b : Answer) : Prop where
  sender : b.message.sender = .ai
  content : b.message.content = ""
  opened : b.source.closed = false
  run : ∃ t : Turn, t.aiText = "" ∧ Relay.Run { messageId := b.message.id, turn := t } b.log b.relay
  taken : Taken b.source b.log b.stream b.relay

variable {b : Answer} {doomed : List Id} {shown : Option String}

lemma textWith_of_empty {t : Turn} (ht : t.aiText = "") (ds : List String) :
    t.textWith ds = Text.trimStart (String.join ds) := if_pos ht

lemma Sound.messageId (h : b.Sound) : b.relay.messageId = b.message.id := by
  obtain ⟨t, -, hrun⟩ := h.run
  exact Relay.run_messageId hrun

lemma Sound.aiText (h : b.Sound) : b.relay.turn.aiText = b.text := by
  obtain ⟨t, ht, hrun⟩ := h.run
  rw [Relay.run_aiText hrun, textWith_of_empty ht, text]

lemma Sound.isKept_iff (h : b.Sound) :
    b.isKept ↔ Answered b.log (.save b.message.id b.text) (.saved (.ok true)) := by
  obtain ⟨t, ht, hrun⟩ := h.run
  rw [isKept, Relay.run_keeps hrun, textWith_of_empty ht, text]

lemma Sound.settled_of_isKept (h : b.Sound) (hkept : b.isKept) : b.relay.phase = .settled := by
  obtain ⟨t, -, hrun⟩ := h.run
  exact (Relay.resolved_iff hrun).1 (.inl ⟨_, _, _, h.isKept_iff.1 hkept⟩)

lemma Sound.isKept_eq_false (h : b.Sound) (hphase : b.relay.phase ≠ .settled) :
    b.isKept = false :=
  Bool.eq_false_iff.2 fun hkept => hphase (h.settled_of_isKept hkept)

/-- A reply that was kept is all that the model sent. -/
lemma Sound.whole (h : b.Sound) (hkept : b.isKept) :
    b.source.feed.items.map (·.value) = (deltas b.log).map .ok := by
  obtain ⟨t, ht, hrun⟩ := h.run
  have hsave := (Relay.run_keeps hrun).1 hkept
  have hsettled := Relay.demand_eq_nothing_iff.2 (h.settled_of_isKept hkept)
  obtain ⟨s, htruthful⟩ := Relay.run_truthful hrun hsettled
  exact h.taken.whole (htruthful.faithful.ended_of_saved hsave) h.opened

/-- What a message says that holds the place of an answer: the text if it was kept. If it was not
then the message is gone, once the answer is over and the message was deleted. -/
structure Shows (b : Answer) (doomed : List Id) (shown : Option String) : Prop where
  kept : b.isKept → shown = some b.text
  gone : b.isKept = false → b.IsOver → b.message.id ∉ doomed → shown = none

/-- Nothing is known of an answer that is still being relayed. -/
lemma Sound.shows (h : b.Sound) (hover : ¬b.IsOver) : b.Shows doomed shown where
  kept hkept := absurd (.inl (h.settled_of_isKept hkept)) hover
  gone _ hover' := absurd hover' hover

/-- An answer that has just begun. -/
def begun (message : Message) (turn : Turn) (stream : Stream) : Answer :=
  { message, source := stream, relay := { messageId := message.id, turn }, stream }

lemma begun_sound {m : Message} {turn : Turn} {stream : Stream} (hsender : m.sender = .ai)
    (hcontent : m.content = "") (hturn : turn.aiText = "") (hstream : stream.closed = false) :
    (begun m turn stream).Sound where
  sender := hsender
  content := hcontent
  opened := hstream
  run := ⟨turn, hturn, .start⟩
  taken := by
    refine ⟨fun _ => ⟨Relay.answered_nil, rfl, rfl⟩, List.nil_prefix, fun h => ?_⟩
    exact absurd h Relay.answered_nil

/-- An answer after one more event. -/
def heard (b : Answer) (e : Relay.Event) (s : Stream) : Answer :=
  { b with
    relay := (b.relay.step e).1
    stream := s
    log := b.log ++ [b.relay.exchange e] }

/-- An answer after some exchanges. -/
def after (b : Answer) (log : List Exchange) (s : Stream) (r : Relay) : Answer :=
  { b with relay := r, stream := s, log := b.log ++ log }

variable {e : Relay.Event} {s : Stream} {w w' : World}

lemma isKept_heard : (b.heard e s).isKept = (b.isKept || e.keeps) := by
  simp [isKept, heard, Relay.exchange]

lemma text_heard (he : e.delta? = none) : (b.heard e s).text = b.text := by
  simp [text, heard, Relay.deltas_snoc, Relay.exchange, he]

lemma Sound.heard (h : b.Sound) (he : w.hear b.stream b.relay.demand = (some (e, s), w')) :
    (b.heard e s).Sound where
  sender := h.sender
  content := h.content
  opened := h.opened
  run := by
    obtain ⟨t, ht, hrun⟩ := h.run
    exact ⟨t, ht, hrun.step (hear_answers he)⟩
  taken := taken_heard h.taken he

end Answer

end Parley
