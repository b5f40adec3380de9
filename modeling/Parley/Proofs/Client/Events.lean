import Parley.Client.ModelClient
import Parley.Proofs.Model.Events

/-!
# Items of a streamed body

`Brings` says which items events bring: their deltas, up to the event that says that this is all or
the first one that cannot be read. A client gives out the items that the events of the text bring,
so it is all one how the body came in chunks (`items_splits`).
-/

namespace Parley.ModelClient

variable {e : List Char} {events front rest more : List (List Char)} {text : String}
  {items : List (Except ModelFault String)}

/-- An event after which more may come. -/
def Continues (e : List Char) : Prop :=
  Event.parse e = .ok .skip ∨ ∃ text, Event.parse e = .ok (.delta text)

/-- The texts of the events that have one. -/
def deltas (events : List (List Char)) : List String :=
  events.filterMap fun e => match Event.parse e with
    | .ok (.delta text) => some text
    | _ => none

/-- What events bring: the deltas of all of them, or of those before one that says that it is done,
or of those before one that is malformed, and then this fault. -/
inductive Brings : List (List Char) → List (Except ModelFault String) → Prop
  | all {events : List (List Char)} (hevents : ∀ e ∈ events, Continues e) :
    Brings events ((deltas events).map .ok)
  | done {front rest : List (List Char)} {e : List Char} (hfront : ∀ e ∈ front, Continues e)
    (he : Event.parse e = .ok .done) : Brings (front ++ e :: rest) ((deltas front).map .ok)
  | malformed {front rest : List (List Char)} {e : List Char} {fault : ModelFault}
    (hfront : ∀ e ∈ front, Continues e) (he : Event.parse e = .error fault) :
    Brings (front ++ e :: rest) ((deltas front).map .ok ++ [.error fault])

lemma deltas_cons_delta (h : Event.parse e = .ok (.delta text)) :
    deltas (e :: events) = text :: deltas events := by
  simp [deltas, h]

lemma deltas_cons_skip (h : Event.parse e = .ok .skip) : deltas (e :: events) = deltas events := by
  simp [deltas, h]

/-- Events after which more may come bring their deltas. -/
lemma ofEvents_continues (hfront : ∀ e ∈ front, Continues e) (rest : List (List Char)) :
    ofEvents (front ++ rest) =
      ((deltas front).map .ok ++ (ofEvents rest).1, (ofEvents rest).2) := by
  induction front with
  | nil => rfl
  | cons e front ih =>
    obtain ⟨he, hfront⟩ := List.forall_mem_cons.1 hfront
    rw [List.cons_append, ofEvents]
    obtain he | ⟨text, he⟩ := he
    · rw [deltas_cons_skip he]
      simp only [he, ih hfront]
    · rw [deltas_cons_delta he]
      simp only [he, ih hfront]
      rfl

lemma Brings.eq_ofEvents (h : Brings events items) : items = (ofEvents events).1 := by
  cases h with
  | all hevents =>
    have hall := ofEvents_continues hevents []
    rw [List.append_nil] at hall
    rw [hall]
    exact (List.append_nil _).symm
  | done hfront he =>
    rw [ofEvents_continues hfront, ofEvents]
    simp only [he, List.append_nil]
  | malformed hfront he =>
    rw [ofEvents_continues hfront, ofEvents]
    simp only [he]

lemma continue_or_stop (events : List (List Char)) : (∀ e ∈ events, Continues e) ∨
    ∃ front e rest, events = front ++ e :: rest ∧ (∀ e ∈ front, Continues e) ∧ ¬Continues e := by
  induction events with
  | nil => exact .inl (List.forall_mem_nil _)
  | cons e events ih =>
    by_cases he : Continues e
    · obtain hall | ⟨front, d, rest, rfl, hfront, hd⟩ := ih
      · exact .inl (List.forall_mem_cons.2 ⟨he, hall⟩)
      · exact .inr ⟨e :: front, d, rest, rfl, List.forall_mem_cons.2 ⟨he, hfront⟩, hd⟩
    · exact .inr ⟨[], e, events, rfl, List.forall_mem_nil _, he⟩

lemma exists_brings (events : List (List Char)) : ∃ items, Brings events items := by
  obtain hall | ⟨front, e, rest, rfl, hfront, he⟩ := continue_or_stop events
  · exact ⟨_, .all hall⟩
  · cases hparse : Event.parse e with
    | error fault => exact ⟨_, .malformed hfront hparse⟩
    | ok event =>
      cases event with
      | delta text => exact absurd (.inr ⟨text, hparse⟩) he
      | skip => exact absurd (.inl hparse) he
      | done => exact ⟨_, .done hfront hparse⟩

theorem brings_iff : Brings events items ↔ items = (ofEvents events).1 := by
  refine ⟨Brings.eq_ofEvents, fun h => ?_⟩
  obtain ⟨items', hbrings⟩ := exists_brings events
  rwa [h, ← hbrings.eq_ofEvents]

lemma Brings.unique {items' : List (Except ModelFault String)} (h : Brings events items)
    (h' : Brings events items') : items = items' :=
  h.eq_ofEvents.trans h'.eq_ofEvents.symm

/-- What comes after the last event that brings something is not looked at. -/
lemma ofEvents_append (events more : List (List Char)) : ofEvents (events ++ more) =
    ((ofEvents events).1 ++ if (ofEvents events).2 then (ofEvents more).1 else [],
      (ofEvents events).2 && (ofEvents more).2) := by
  induction events with
  | nil => simp [ofEvents]
  | cons e events ih =>
    rw [List.cons_append, ofEvents, ofEvents]
    cases Event.parse e with
    | error fault => rfl
    | ok event =>
      cases event with
      | delta text => simp only [ih, List.cons_append]
      | skip => exact ih
      | done => rfl

/-- A client that reads to the end gives out what the reported events bring. -/
lemma itemsFrom_eq (b : EventBuffer) (chunks : List (List UInt8)) :
    itemsFrom b false chunks =
      (ofEvents ((b.pushAll chunks).1 ++ (b.pushAll chunks).2.finish.toList)).1 := by
  induction chunks generalizing b with
  | nil => rfl
  | cons chunk chunks ih =>
    simp only [itemsFrom, EventBuffer.pushAll, List.append_assoc, ofEvents_append (b.push chunk).1,
      ih]

lemma items_bring {r : Http.Received} (h : r.broken = false) :
    Brings (EventBuffer.reported r.chunks) (ModelClient.items r) := by
  rw [brings_iff, ModelClient.items, h, itemsFrom_eq]
  rfl

/-- An event without text is no delta. -/
lemma delta_ne_empty (h : Event.parse e = .ok (.delta text)) : text ≠ "" := by
  unfold Event.parse at h
  split at h
  · cases h
  · dsimp only at h
    split_ifs at h
    · cases h
    · split at h
      · cases h
      · split_ifs at h with hempty
        · cases h
        · obtain rfl := Event.delta.inj (Except.ok.inj h)
          exact hempty

lemma ne_empty_of_deltas (h : (.ok text : Except ModelFault String) ∈ (deltas events).map .ok) :
    text ≠ "" := by
  obtain ⟨_, htext, ⟨⟩⟩ := List.mem_map.1 h
  obtain ⟨e, -, he⟩ := List.mem_filterMap.1 htext
  split at he
  · next hparse =>
    cases he
    exact delta_ne_empty hparse
  · cases he

lemma Brings.ne_empty (h : Brings events items) (htext : .ok text ∈ items) : text ≠ "" := by
  cases h with
  | all => exact ne_empty_of_deltas htext
  | done => exact ne_empty_of_deltas htext
  | malformed =>
    obtain htext | htext := List.mem_append.1 htext
    · exact ne_empty_of_deltas htext
    · cases List.mem_singleton.1 htext

/-- The events reported of a body are those of its text, split behind every blank line, and what is
left unless it is blank. The items are what these events bring. So it is all one how the body came
in chunks. -/
theorem items_splits {r : Http.Received} {cs : List Char} (hwhole : r.broken = false)
    (hbody : r.chunks.flatten = Text.Utf8.encode cs) (hpaired : cs.IsChain EventBuffer.Paired) :
    ∃ events rest all,
      (∀ events' rest', EventBuffer.Splits (EventBuffer.dropReturns cs) events' rest' ↔
        events' = events ∧ rest' = rest) ∧
      all = (events ++ if rest.all Text.isBlank then [] else [rest]) ∧
      EventBuffer.reported r.chunks = all ∧ Brings all (ModelClient.items r) ∧
      (∀ text, .ok text ∈ ModelClient.items r → text ≠ "") ∧
      ∀ r' : Http.Received, r'.broken = false → r'.chunks.flatten = r.chunks.flatten →
        EventBuffer.reported r'.chunks = all ∧ ModelClient.items r' = ModelClient.items r := by
  obtain ⟨events, rest, hsplits, hreported⟩ := EventBuffer.reported_splits hbody hpaired
  have hbrings := items_bring hwhole
  rw [hreported] at hbrings
  refine ⟨events, rest, _, fun events' rest' => ?_, rfl, hreported, hbrings,
    fun text => hbrings.ne_empty, fun r' hwhole' hchunks => ?_⟩
  · rw [EventBuffer.splits_iff, EventBuffer.splits_iff.1 hsplits, Prod.mk.injEq, eq_comm,
      @eq_comm _ rest]
  · obtain ⟨events', rest', hsplits', hreported'⟩ :=
      EventBuffer.reported_splits (hchunks.trans hbody) hpaired
    obtain ⟨rfl, rfl⟩ := hsplits.unique hsplits'
    have hbrings' := items_bring hwhole'
    rw [hreported'] at hbrings'
    exact ⟨hreported', hbrings'.unique hbrings⟩

/-- A delta, and an event that says that this is all, without a blank line after it. -/
def accented : List Char :=
  "data: \x7b\"choices\":[\x7b\"delta\":\x7b\"content\":\"é\"\x7d\x7d]\x7d\r\n\r\ndata: [DONE]\r\n".toList

/-- Chunks that end inside the accented letter and between a CR and its LF make no difference. -/
theorem items_splits_accented :
    let bytes := Text.Utf8.encode accented
    ModelClient.items
      ⟨200, [], [bytes.take 40, (bytes.drop 40).take 7, (bytes.drop 40).drop 7], false⟩ =
        [.ok "é"] := by
  let bytes := Text.Utf8.encode accented
  let torn : Http.Received :=
    ⟨200, [], [bytes.take 40, (bytes.drop 40).take 7, (bytes.drop 40).drop 7], false⟩
  have hbody : torn.chunks.flatten = bytes := by
    simp only [torn, List.flatten_cons, List.flatten_nil, List.append_nil, List.take_append_drop]
  have hpaired : accented.IsChain EventBuffer.Paired := by decide +kernel
  obtain ⟨events, rest, all, -, -, -, -, -, hsame⟩ := items_splits (r := torn) rfl hbody hpaired
  obtain ⟨-, hitems⟩ := hsame ⟨200, [], [bytes], false⟩ rfl (by simp [hbody])
  exact hitems.symm.trans (by decide +kernel)

end Parley.ModelClient
