import Parley.Proofs.Reply.Decoding
import Parley.Proofs.Turn.Text
import Parley.Reply.Relay

/-!
# Runs of a relay

A `Run` is what passes between a relay and whatever answers it: nothing is assumed of the answers
but that they are of the kind that was waited for. Any run is some deltas and then one of few ways
to close (`run_shape`), so what a settled relay has sent, written and deleted can be read off
(`Truthful`).
-/

namespace Parley.Relay

lemma demand_eq_nothing_iff {r : Relay} : r.demand = .nothing ↔ r.phase = .settled := by
  unfold demand
  split <;> simp_all

lemma phase_of_save {r : Relay} {id : Id} {content : String} (h : r.demand = .save id content) :
    r.phase = .saving := by
  unfold demand at h
  split at h <;> simp_all

/-- The events that can come of a demand. -/
inductive Answers : Demand → Event → Prop
  | delta (text : String) : Answers .item (.delta text)
  | ended : Answers .item .ended
  | failed : Answers .item .failed
  | saved (id : Id) (content : String) (outcome : Except StoreError Bool) :
    Answers (.save id content) (.saved outcome)
  | discarded (id : Id) (outcome : Except StoreError Bool) :
    Answers (.discard id) (.discarded outcome)

/-- What a relay waited for, what it heard, and what it sent then. -/
structure Exchange where
  demand : Demand
  event : Event
  sent : Reply.Bytes

def exchange (r : Relay) (e : Event) : Exchange := ⟨r.demand, e, (r.step e).2⟩

inductive Run (r : Relay) : List Exchange → Relay → Prop
  | start : Run r [] r
  | step {log : List Exchange} {r' : Relay} {e : Event} (h : Run r log r')
    (he : Answers r'.demand e) : Run r (log ++ [r'.exchange e]) (r'.step e).1

lemma step_messageId (r : Relay) (e : Event) : (r.step e).1.messageId = r.messageId := by
  unfold step
  split <;> rfl

lemma run_messageId {r r' : Relay} {log : List Exchange} (h : Run r log r') :
    r'.messageId = r.messageId := by
  induction h with
  | start => rfl
  | step _ _ ih => exact (step_messageId ..).trans ih

/-- What passes depends on the events alone. -/
lemma run_unique {r r₁ r₂ : Relay} {log log' : List Exchange} (h : Run r log r₁)
    (h' : Run r log' r₂) (hevents : log.map (·.event) = log'.map (·.event)) :
    log = log' ∧ r₁ = r₂ := by
  induction h generalizing log' r₂ with
  | start =>
    cases h' with
    | start => exact ⟨rfl, rfl⟩
    | step => simp at hevents
  | step _ _ ih =>
    cases h' with
    | start => simp at hevents
    | step h' _ =>
      rw [List.map_append, List.map_append] at hevents
      obtain ⟨hfront, hlast⟩ := List.append_inj' hevents rfl
      obtain ⟨rfl, rfl⟩ := ih h' hfront
      obtain rfl := List.singleton_inj.1 hlast
      exact ⟨rfl, rfl⟩

def Event.delta? : Event → Option String
  | .delta text => some text
  | _ => none

/-- The deltas that were heard. -/
def deltas (log : List Exchange) : List String := log.filterMap (·.event.delta?)

def sent (log : List Exchange) : Reply.Bytes := log.flatMap (·.sent)

/-- A demand was answered by an event. -/
def Answered (log : List Exchange) (d : Demand) (e : Event) : Prop :=
  ∃ x ∈ log, x.demand = d ∧ x.event = e

def Demand.isSave : Demand → Bool
  | .save _ _ => true
  | _ => false

def Demand.isDiscard : Demand → Bool
  | .discard _ => true
  | _ => false

/-- What a settled relay with a status did with its message, for which it had a text. -/
structure Faithful (m : Id) (text : String) (log : List Exchange) (s : Reply.Status) : Prop where
  demand_mem : ∀ x ∈ log, x.demand ∈ [.item, .save m text, .discard m]
  ended_iff : Answered log .item .ended ↔ ¬Answered log .item .failed
  success_iff : s = .success ↔
    ¬Answered log .item .failed ∧ Answered log (.save m text) (.saved (.ok true))
  save_once : log.countP (·.demand.isSave) ≤ 1
  save_never : Answered log .item .failed → log.countP (·.demand.isSave) = 0
  discard_once : (Answered log .item .failed ∨
    ∃ e, Answered log (.save m text) (.saved (.error e))) → log.countP (·.demand.isDiscard) = 1
  discard_never : (∃ found, Answered log (.save m text) (.saved (.ok found))) →
    log.countP (·.demand.isDiscard) = 0

/-- A settled relay has sent what can be seen of the deltas and then, last of all, a status that is
true of its message. -/
structure Truthful (m : Id) (t : Turn) (log : List Exchange) (s : Reply.Status) : Prop where
  sent_eq : ∃ front last, log = front ++ [last] ∧ last.sent = Reply.encodeStatus s ∧
    sent front = Text.Utf8.ofString
      (String.ofList (Reply.visible (String.join (deltas log)).toList))
  faithful : Faithful m (t.textWith (deltas log)) log s

def heard (delta : String) : Exchange := ⟨.item, .delta delta, Reply.encodeContent delta⟩

/-- What passes after the deltas, up to a phase. -/
inductive Closing (m : Id) (text : String) : List Exchange → Phase → Prop
  | listening : Closing m text [] .listening
  | ended : Closing m text [⟨.item, .ended, []⟩] .saving
  | failed : Closing m text [⟨.item, .failed, []⟩] .discarding
  | unsaved (e : StoreError) : Closing m text
      [⟨.item, .ended, []⟩, ⟨.save m text, .saved (.error e), []⟩] .discarding
  | kept : Closing m text [⟨.item, .ended, []⟩,
      ⟨.save m text, .saved (.ok true), Reply.encodeStatus .success⟩] .settled
  | vanished : Closing m text [⟨.item, .ended, []⟩,
      ⟨.save m text, .saved (.ok false), Reply.encodeStatus .failure⟩] .settled
  | discarded {tail : List Exchange} (h : Closing m text tail .discarding)
    (outcome : Except StoreError Bool) : Closing m text
      (tail ++ [⟨.discard m, .discarded outcome, Reply.encodeStatus .failure⟩]) .settled

lemma close_aiText (t : Turn) (s : Reply.Status) : (close t s).aiText = t.aiText := by
  unfold close Turn.finalized Turn.deleted Turn.advance
  split
  · next h => split_ifs at h <;> cases h <;> rfl
  · rfl

/-- A relay has heard some deltas, keeps their text, and then went on towards its end. -/
structure Shape (m : Id) (t : Turn) (ds : List String) (tail : List Exchange) (r : Relay) :
    Prop where
  messageId : r.messageId = m
  aiText : r.turn.aiText = t.textWith ds
  closing : Closing m (t.textWith ds) tail r.phase

lemma shape_step {m : Id} {t : Turn} {ds : List String} {tail : List Exchange} {r : Relay}
    {e : Event} (h : Shape m t ds tail r) (he : Answers r.demand e) :
    ∃ ds' tail', ds.map heard ++ tail ++ [r.exchange e] = ds'.map heard ++ tail' ∧
      Shape m t ds' tail' (r.step e).1 := by
  obtain ⟨id, turn, phase⟩ := r
  obtain ⟨rfl, htext, hclosing⟩ := h
  cases hclosing with
  | listening =>
    cases he with
    | delta text =>
      refine ⟨ds ++ [text], [], ?_, rfl, Turn.aiText_push htext text, .listening⟩
      simp [exchange, demand, step, heard]
    | ended => exact ⟨ds, _, List.append_assoc .., rfl, htext, .ended⟩
    | failed => exact ⟨ds, _, List.append_assoc .., rfl, htext, .failed⟩
  | ended =>
    cases he with
    | saved _ _ outcome =>
      refine ⟨ds, _, List.append_assoc .., ?_⟩
      dsimp only at htext
      rcases outcome with e | found | found
      · simp only [exchange, demand, htext]
        exact ⟨rfl, htext, .unsaved e⟩
      · simp only [exchange, demand, htext]
        exact ⟨rfl, (close_aiText turn _).trans htext, .vanished⟩
      · simp only [exchange, demand, htext]
        exact ⟨rfl, (close_aiText turn _).trans htext, .kept⟩
  | failed =>
    cases he with
    | discarded _ outcome =>
      exact ⟨ds, _, List.append_assoc .., rfl, (close_aiText turn _).trans htext,
        .discarded .failed outcome⟩
  | unsaved e =>
    cases he with
    | discarded _ outcome =>
      exact ⟨ds, _, List.append_assoc .., rfl, (close_aiText turn _).trans htext,
        .discarded (.unsaved e) outcome⟩
  | kept => cases he
  | vanished => cases he
  | discarded => cases he

theorem run_shape {m : Id} {t : Turn} {log : List Exchange} {r : Relay}
    (h : Run { messageId := m, turn := t } log r) :
    ∃ ds tail, log = ds.map heard ++ tail ∧ Shape m t ds tail r := by
  induction h with
  | start => exact ⟨[], [], rfl, rfl, (Turn.textWith_nil t).symm, .listening⟩
  | step _ he ih =>
    obtain ⟨ds, tail, rfl, hshape⟩ := ih
    exact shape_step hshape he

section Log

variable (ds : List String) (tail : List Exchange)

lemma deltas_heard : deltas (ds.map heard ++ tail) = ds ++ deltas tail := by
  induction ds with
  | nil => rfl
  | cons d ds ih => exact congrArg (d :: ·) ih

lemma sent_heard : sent (ds.map heard) = ds.flatMap Reply.encodeContent := List.flatMap_map ..

lemma sent_append (log log' : List Exchange) : sent (log ++ log') = sent log ++ sent log' :=
  List.flatMap_append

lemma answered_heard {d : Demand} {e : Event} (he : e.delta? = none) :
    Answered (ds.map heard ++ tail) d e ↔ Answered tail d e := by
  refine ⟨?_, fun ⟨x, hx, h⟩ => ⟨x, List.mem_append_right _ hx, h⟩⟩
  rintro ⟨x, hx, rfl, rfl⟩
  rcases List.mem_append.1 hx with hx | hx
  · obtain ⟨d, _, rfl⟩ := List.mem_map.1 hx
    cases he
  · exact ⟨x, hx, rfl, rfl⟩

lemma countP_heard {p : Exchange → Bool} (hp : ∀ d, p (heard d) = false) :
    (ds.map heard ++ tail).countP p = tail.countP p := by
  rw [List.countP_append, List.countP_eq_zero.2, Nat.zero_add]
  intro x hx
  obtain ⟨d, _, rfl⟩ := List.mem_map.1 hx
  simp [hp d]

end Log

lemma closing_deltas {m : Id} {text : String} {tail : List Exchange} {phase : Phase}
    (h : Closing m text tail phase) : deltas tail = [] := by
  induction h with
  | discarded _ _ ih => rw [deltas, List.filterMap_append, ← deltas, ih]; rfl
  | _ => rfl

lemma deltas_heard_closing {m : Id} {text : String} {tail : List Exchange} {phase : Phase}
    (ds : List String) (h : Closing m text tail phase) : deltas (ds.map heard ++ tail) = ds := by
  rw [deltas_heard, closing_deltas h, List.append_nil]

lemma answered_cons {x : Exchange} {log : List Exchange} {d : Demand} {e : Event} :
    Answered (x :: log) d e ↔ (x.demand = d ∧ x.event = e) ∨ Answered log d e := by
  simp [Answered]

lemma deltas_snoc (log : List Exchange) (x : Exchange) :
    deltas (log ++ [x]) = deltas log ++ x.event.delta?.toList := by
  rw [deltas, List.filterMap_append, List.filterMap_cons]
  cases x.event.delta? <;> rfl

lemma answered_snoc {log : List Exchange} {x : Exchange} {d : Demand} {e : Event} :
    Answered (log ++ [x]) d e ↔ Answered log d e ∨ (x.demand = d ∧ x.event = e) := by
  simp [Answered, or_and_right, exists_or]

lemma answered_nil {d : Demand} {e : Event} : ¬Answered [] d e := by simp [Answered]

lemma Faithful.after {m : Id} {text : String} {tail : List Exchange} {s : Reply.Status}
    (h : Faithful m text tail s) (ds : List String) :
    Faithful m text (ds.map heard ++ tail) s := by
  have hsaves := @countP_heard ds tail (·.demand.isSave) fun _ => rfl
  have hdiscards := @countP_heard ds tail (·.demand.isDiscard) fun _ => rfl
  have hfail := @answered_heard ds tail .item .failed rfl
  have hend := @answered_heard ds tail .item .ended rfl
  have hsave (o) := @answered_heard ds tail (.save m text) (.saved o) rfl
  obtain ⟨hmem, hended, hsuccess, honce, hnever, hdiscard, hkept⟩ := h
  constructor
  case demand_mem =>
    intro x hx
    rcases List.mem_append.1 hx with hx | hx
    · obtain ⟨d, _, rfl⟩ := List.mem_map.1 hx
      exact List.mem_cons_self ..
    · exact hmem x hx
  all_goals simp only [hsaves, hdiscards, hfail, hend, hsave]
  all_goals assumption

lemma Faithful.text_of_saved {m : Id} {text text' : String} {log : List Exchange}
    {s : Reply.Status} (h : Faithful m text log s) {outcome : Except StoreError Bool}
    (hsave : Answered log (.save m text') (.saved outcome)) : text' = text := by
  obtain ⟨x, hx, hdemand, -⟩ := hsave
  simpa [hdemand] using h.demand_mem x hx

lemma Faithful.ended_of_saved {m : Id} {text : String} {log : List Exchange} {s : Reply.Status}
    (h : Faithful m text log s) {outcome : Except StoreError Bool}
    (hsave : Answered log (.save m text) (.saved outcome)) : Answered log .item .ended := by
  refine h.ended_iff.2 fun hfailed => ?_
  obtain ⟨x, hx, hdemand, -⟩ := hsave
  have hnone := List.countP_eq_zero.1 (h.save_never hfailed) x hx
  simp [hdemand, Demand.isSave] at hnone

/-- How a relay can settle: with which status, and with that status alone in the last exchange. -/
lemma closing_faithful {m : Id} {text : String} {tail : List Exchange}
    (h : Closing m text tail .settled) :
    ∃ s front last, tail = front ++ [last] ∧ last.sent = Reply.encodeStatus s ∧ sent front = [] ∧
      Faithful m text tail s := by
  cases h with
  | kept =>
    refine ⟨.success, [_], _, rfl, rfl, rfl, ?_⟩
    constructor <;> simp [answered_cons, answered_nil, Demand.isSave, Demand.isDiscard]
  | vanished =>
    refine ⟨.failure, [_], _, rfl, rfl, rfl, ?_⟩
    constructor <;> simp [answered_cons, answered_nil, Demand.isSave, Demand.isDiscard]
  | discarded h outcome =>
    refine ⟨.failure, _, _, rfl, rfl, ?_⟩
    cases h with
    | failed =>
      refine ⟨rfl, ?_⟩
      constructor <;> simp [answered_cons, answered_nil, Demand.isSave, Demand.isDiscard]
    | unsaved e =>
      refine ⟨rfl, ?_⟩
      constructor <;> simp [answered_cons, answered_nil, Demand.isSave, Demand.isDiscard]

theorem run_truthful {m : Id} {t : Turn} {log : List Exchange} {r : Relay}
    (h : Run { messageId := m, turn := t } log r) (hr : r.demand = .nothing) :
    ∃ s, Truthful m t log s := by
  obtain ⟨ds, tail, rfl, hshape⟩ := run_shape h
  have hclosing := hshape.closing
  rw [demand_eq_nothing_iff.1 hr] at hclosing
  have hdeltas := deltas_heard_closing ds hclosing
  obtain ⟨s, front, last, rfl, hlast, hfront, hfaithful⟩ := closing_faithful hclosing
  refine ⟨s, ⟨ds.map heard ++ front, last, (List.append_assoc ..).symm, hlast, ?_⟩, ?_⟩
  · rw [hdeltas, sent_append, sent_heard, hfront, List.append_nil, Reply.ofString_visible]
  · rw [hdeltas]
    exact hfaithful.after ds

/-- The message was kept, found to be gone, or given up. -/
def Resolved (log : List Exchange) : Prop :=
  (∃ id text found, Answered log (.save id text) (.saved (.ok found))) ∨
    ∃ id outcome, Answered log (.discard id) (.discarded outcome)

lemma resolved_iff {m : Id} {t : Turn} {log : List Exchange} {r : Relay}
    (h : Run { messageId := m, turn := t } log r) : Resolved log ↔ r.phase = .settled := by
  obtain ⟨ds, tail, rfl, -, -, hclosing⟩ := run_shape h
  have hsave (id text o) := @answered_heard ds tail (.save id text) (.saved o) rfl
  have hdiscard (id o) := @answered_heard ds tail (.discard id) (.discarded o) rfl
  simp only [Resolved, hsave, hdiscard]
  generalize r.phase = phase at hclosing
  cases hclosing with
  | discarded _ outcome =>
    exact ⟨fun _ => rfl, fun _ => .inr ⟨m, outcome, answered_snoc.2 (.inr ⟨rfl, rfl⟩)⟩⟩
  | _ => simp [answered_cons, answered_nil]

end Parley.Relay
