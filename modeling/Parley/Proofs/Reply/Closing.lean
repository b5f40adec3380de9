import Parley.Proofs.Chat.History
import Parley.Proofs.Reply.Relay

/-!
# What a relay does to its message

A relay changes nothing before it is settled. When it is, it has written its message or deleted it,
or could do neither (`Relay.Closed`).
-/

namespace Parley.Relay

/-- What was done to the chats. -/
def Exchange.event? : Exchange → Option ChatEvent
  | ⟨.save id text, .saved outcome, _⟩ => (ChatCall.updateMessage id text).event? outcome
  | ⟨.discard id, .discarded outcome, _⟩ => (ChatCall.deleteMessage id).event? outcome
  | _ => none

def events (log : List Exchange) : List ChatEvent := log.filterMap (·.event?)

/-- The message was there whenever the store was asked to write or to delete it. -/
def Present (log : List Exchange) : Prop :=
  ∀ x ∈ log, x.event ≠ .saved (.ok false) ∧ x.event ≠ .discarded (.ok false)

variable {m : Id} {t : Turn} {text : String} {log tail : List Exchange} {r : Relay}
  {s : Reply.Status}

lemma events_heard (ds : List String) : events (ds.map heard ++ tail) = events tail := by
  induction ds with
  | nil => rfl
  | cons d ds ih => exact ih

lemma demand_message {id : Id} (h : (∃ text, r.demand = .save id text) ∨ r.demand = .discard id) :
    id = r.messageId ∧ r.phase ≠ .settled := by
  unfold demand at h
  split at h <;> simp_all

lemma closing_unsettled {phase : Phase} (h : Closing m text tail phase)
    (hphase : phase ≠ .settled) : events tail = [] := by
  cases h with
  | kept => exact absurd rfl hphase
  | vanished => exact absurd rfl hphase
  | discarded => exact absurd rfl hphase
  | _ => rfl

/-- A relay that is not settled has changed nothing. -/
lemma run_unsettled (h : Run { messageId := m, turn := t } log r) (hr : r.phase ≠ .settled) :
    events log = [] := by
  obtain ⟨ds, tail, rfl, hshape⟩ := run_shape h
  rw [events_heard]
  exact closing_unsettled hshape.closing hr

/-- What a settled relay has done to its message. -/
inductive Closed (m : Id) (text : String) (log : List Exchange) : Reply.Status → Prop
  | kept (h : events log = [.rewritten m text]) : Closed m text log .success
  | gone (h : events log = [.removed m]) : Closed m text log .failure
  | stuck {e : StoreError} (h : events log = [])
    (he : Answered log (.discard m) (.discarded (.error e))) : Closed m text log .failure

lemma closing_closed (h : Closing m text tail .settled) (hpresent : Present tail)
    (hsuccess : s = .success ↔
      ¬Answered tail .item .failed ∧ Answered tail (.save m text) (.saved (.ok true))) :
    Closed m text tail s := by
  cases h with
  | kept =>
    obtain rfl : s = .success := hsuccess.2 (by simp [answered_cons, answered_nil])
    exact .kept rfl
  | vanished =>
    exact absurd rfl (hpresent _ (List.mem_cons_of_mem _ (List.mem_singleton_self _))).1
  | @discarded front h outcome =>
    have hlast : (⟨.discard m, .discarded outcome, Reply.encodeStatus .failure⟩ : Exchange) ∈
        front ++ [⟨.discard m, .discarded outcome, Reply.encodeStatus .failure⟩] := by simp
    obtain rfl : s = .failure := by
      cases s with
      | failure => rfl
      | success =>
        have hnot := (hsuccess.1 rfl).2
        cases h <;> simp [answered_cons, answered_nil] at hnot
    have hevents : events (front ++ [⟨.discard m, .discarded outcome, Reply.encodeStatus .failure⟩])
        = ((ChatCall.deleteMessage m).event? outcome).toList := by
      rw [events, List.filterMap_append, ← events, closing_unsettled h Phase.noConfusion]
      cases h : (ChatCall.deleteMessage m).event? outcome <;> simp [Exchange.event?, h]
    rcases outcome with e | _ | _
    · exact .stuck hevents ⟨_, hlast, rfl, rfl⟩
    · exact absurd rfl (hpresent _ hlast).2
    · exact .gone hevents

/-- A settled relay is truthful, and has closed its message as its status says. -/
theorem run_closed (h : Run { messageId := m, turn := t } log r) (hr : r.phase = .settled)
    (hpresent : Present log) :
    ∃ s, Truthful m t log s ∧ Closed m (t.textWith (deltas log)) log s := by
  obtain ⟨s, htruthful⟩ := run_truthful h (demand_eq_nothing_iff.2 hr)
  refine ⟨s, htruthful, ?_⟩
  have hsuccess := htruthful.faithful.success_iff
  obtain ⟨ds, tail, rfl, hshape⟩ := run_shape h
  have hclosing := hr ▸ hshape.closing
  have hdeltas := deltas_heard_closing ds hclosing
  rw [hdeltas, answered_heard ds tail rfl, answered_heard ds tail rfl] at hsuccess
  have hclosed := closing_closed hclosing
    (fun x hx => hpresent x (List.mem_append_right _ hx)) hsuccess
  rw [hdeltas]
  cases hclosed with
  | kept hevents => exact .kept ((events_heard ds).trans hevents)
  | gone hevents => exact .gone ((events_heard ds).trans hevents)
  | stuck hevents he =>
    exact .stuck ((events_heard ds).trans hevents) ((answered_heard ds _ rfl).2 he)

end Parley.Relay
