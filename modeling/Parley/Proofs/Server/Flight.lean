import Parley.Proofs.Reply.Closing
import Parley.Proofs.Server.Drafting

/-!
# A message in flight

A `Flight` is a message on its way through a server: what the work for it has asked so far, and what
the relay of its reply has heard. It goes on step by step at a desk that others may come to in
between (`Flight.Step`). It saves one message of the human and then one for the reply, and touches
no message but that (`Flight.Step.moves`).
-/

namespace Parley

open ChatEvent (left left_append left_untouched)
open Relay (Exchange Present)
open Sending (Draft drafting)

inductive Flight.Stage
  | handling
  | refused (r : Refusal)
  /-- The work was dropped before there was a response. -/
  | dropped
  | relaying (response : Http.Response) (relay : Relay) (log : List Exchange)
  /-- The body was dropped, and the message of the reply is deleted in the background. -/
  | left (response : Http.Response) (relay : Relay) (log : List Exchange)
    (cleanup : Option (Except StoreError Bool))

/-- A message that was sent to a chat or to a new one, and how far it has got. -/
structure Flight where
  default : String
  chat : Option Id
  sending : Sending
  asked : List Asked := []
  stage : Flight.Stage := .handling

namespace Desk

/-- Calls for chats come to the desk; whatever else is asked, any reply may come. -/
inductive Replies (d : Desk) : (c : Call) → c.Reply → Desk → Prop
  | chats {c : ChatCall} {reply : Except StoreError c.Reply} {d' : Desk}
    (h : d.Called c reply d') : Replies d (.chats c) reply d'
  | other {c : Call} (h : ∀ c', c ≠ .chats c') (reply : c.Reply) : Replies d c reply d

/-- What a relay hears: anything of the model, and of the store what comes of a call. -/
inductive Hears (d : Desk) : Relay.Demand → Relay.Event → Desk → Prop
  | item {e : Relay.Event} (h : Relay.Answers .item e) : Hears d .item e d
  | saved {id : Id} {text : String} {outcome : Except StoreError Bool} {d' : Desk}
    (h : d.Called (.updateMessage id text) outcome d') : Hears d (.save id text) (.saved outcome) d'
  | discarded {id : Id} {outcome : Except StoreError Bool} {d' : Desk}
    (h : d.Called (.deleteMessage id) outcome d') : Hears d (.discard id) (.discarded outcome) d'

lemma Hears.answers {d d' : Desk} {demand : Relay.Demand} {e : Relay.Event}
    (h : d.Hears demand e d') : Relay.Answers demand e := by
  cases h with
  | item h => exact h
  | saved => exact .saved _ _ _
  | discarded => exact .discarded _ _

end Desk

namespace Flight

/-- Before anything was asked. -/
def new (f : Flight) : Flight := { f with asked := [], stage := .handling }

/-- The work has got a reply. -/
def ask (f : Flight) (x : Asked) : Flight := { f with asked := f.asked ++ [x] }

def work (f : Flight) : Task (Except Refusal Http.Response) := (f.sending.send f.default f.chat).run

/-- What was done to the chats, one after the other, after there was a response. -/
def Stage.events : Stage → List ChatEvent
  | handling => []
  | refused _ => []
  | dropped => []
  | relaying _ _ log => Relay.events log
  | left _ relay log cleanup => Relay.events log ++
    (cleanup.bind (ChatCall.deleteMessage relay.messageId).event?).toList

/-- What was done to the chats, one after the other. -/
def events (f : Flight) : List ChatEvent := f.asked.filterMap (·.event?) ++ f.stage.events

/-- The messages that were saved: first that of the human, then that for the reply. -/
def posts (f : Flight) : List Message := f.events.filterMap (·.added?)

def ids (f : Flight) : List Id := f.posts.map (·.id)

/-- The messages that a flight may write or delete. -/
def answers (f : Flight) : List Id := (f.posts.filter (·.sender = .ai)).map (·.id)

lemma answers_subset (f : Flight) : f.answers ⊆ f.ids :=
  List.map_subset _ (List.filter_subset_self _)

/-- One call of the work or of the relay and its reply, one delta of the model, or the end of the
work or of the body. -/
inductive Step (d : Desk) (f : Flight) : Desk → Flight → Prop
  /-- The work gets a reply to the call that it waits for. -/
  | asks {c : Call} {reply : c.Reply} {d' : Desk} (hstage : f.stage = .handling)
    (hwaits : f.work.Waits f.asked c) (h : d.Replies c reply d') :
    Step d f d' (f.ask ⟨c, reply⟩)
  | refused {r : Refusal} (hstage : f.stage = .handling) (hran : f.work.Ran f.asked (.error r)) :
    Step d f d { f with stage := .refused r }
  /-- The work is dropped while it waits, and the call with it. -/
  | dropped {c : Call} (hstage : f.stage = .handling) (hwaits : f.work.Waits f.asked c) :
    Step d f d { f with stage := .dropped }
  | answered {response : Http.Response} {relay : Relay} {stream : Stream}
    (hstage : f.stage = .handling) (hran : f.work.Ran f.asked (.ok response))
    (hbody : response.body = .reply relay stream) :
    Step d f d { f with stage := .relaying response relay [] }
  | heard {response : Http.Response} {relay : Relay} {log : List Exchange} {e : Relay.Event}
    {d' : Desk} (hstage : f.stage = .relaying response relay log) (h : d.Hears relay.demand e d') :
    Step d f d' { f with
      stage := .relaying response (relay.step e).1 (log ++ [relay.exchange e]) }
  /-- The body is dropped before the relay is settled. -/
  | left {response : Http.Response} {relay : Relay} {log : List Exchange}
    (hstage : f.stage = .relaying response relay log) (harmed : relay.isArmed) :
    Step d f d { f with stage := .left response relay log none }
  | tidied {response : Http.Response} {relay : Relay} {log : List Exchange}
    {outcome : Except StoreError Bool} {d' : Desk}
    (hstage : f.stage = .left response relay log none)
    (h : d.Called (.deleteMessage relay.messageId) outcome d') :
    Step d f d' { f with stage := .left response relay log (some outcome) }

def protocol (f : Flight) : Protocol Draft := drafting f.sending f.chat

/-- How far the work has got. -/
def draft (f : Flight) : Draft := f.protocol.after .fresh f.asked

/-- A message is held for the reply, and the relay has only been answered by it. -/
structure Relays (draft : Draft) (response : Http.Response) (relay : Relay) (log : List Exchange)
    (m reply : Message) (turn : Turn) : Prop where
  held : draft = .held m reply
  body : ∃ stream, response.body = .reply { messageId := reply.id, turn } stream
  empty : turn.aiText = ""
  run : Relay.Run { messageId := reply.id, turn } log relay
  present : Present log

/-- What a stage may be, by how far the work has got. -/
def Stage.Fits (draft : Draft) : Stage → Prop
  | handling => True
  | refused _ => ∀ m reply, draft ≠ .held m reply
  | dropped => ∀ m reply, draft ≠ .held m reply
  | relaying response relay log => ∃ m reply turn, Relays draft response relay log m reply turn
  | left response relay log cleanup =>
    (∃ m reply turn, Relays draft response relay log m reply turn) ∧
      relay.phase ≠ .settled ∧ cleanup ≠ some (.ok false)

/-- The work has kept to the protocol, and what was done to the chats is what the protocol says. -/
structure Sound (f : Flight) : Prop where
  expects : f.protocol.Expects .fresh f.asked
  posts : (f.asked.filterMap (·.event?)).filterMap (·.added?) = f.draft.posts
  quiet : ∀ x ∈ f.asked.filterMap (·.event?), x.touched? = none
  begun : f.draft = .fresh → f.asked = []
  fits : f.draft.Fits f.sending
  stage : f.stage.Fits f.draft

variable {f f' : Flight} {d d' : Desk} {l₀ : Ledger} {m reply : Message} {turn : Turn}
  {response : Http.Response} {relay : Relay} {log : List Exchange}

lemma sound_new (f : Flight) : f.new.Sound where
  expects := trivial
  posts := rfl
  quiet _ hx := by cases hx
  begun _ := rfl
  fits := trivial
  stage := trivial

lemma Step.new (h : Step d f d' f') : f'.new = f.new := by
  cases h <;> rfl

/-- A flight that has made a step is not new. -/
lemma Step.begun (h : Step d f d' f') : f'.new ≠ f' := by
  intro hnew
  have hasked : [] = f'.asked := congrArg Flight.asked hnew
  have hstage : Stage.handling = f'.stage := congrArg Flight.stage hnew
  cases h with
  | asks => exact List.append_ne_nil_of_right_ne_nil _ (List.cons_ne_nil _ _) hasked.symm
  | _ => cases hstage

lemma filterMap_added_relay (log : List Exchange) :
    (Relay.events log).filterMap (·.added?) = [] := by
  rw [Relay.events, List.filterMap_filterMap, List.filterMap_eq_nil_iff]
  rintro ⟨demand, event, -⟩ -
  cases demand <;> cases event <;> first | rfl | rename_i outcome
  all_goals rcases outcome with _ | _ | _ <;> rfl

lemma stage_added (stage : Stage) : stage.events.filterMap (·.added?) = [] := by
  cases stage with
  | relaying => exact filterMap_added_relay _
  | left response relay log cleanup =>
    rw [Stage.events, List.filterMap_append, filterMap_added_relay]
    rcases cleanup with _ | _ | _ | _ <;> rfl
  | _ => rfl

lemma Sound.posts_eq (h : f.Sound) : f.posts = f.draft.posts := by
  rw [Flight.posts, events, List.filterMap_append, h.posts, stage_added, List.append_nil]

/-- What is left of a message depends on what was done after there was a response. -/
lemma Sound.left_events (h : f.Sound) : left f.events m = left f.stage.events m := by
  have hquiet : left (f.asked.filterMap (·.event?)) m = some m := by
    apply left_untouched
    intro x hx htouched
    rw [h.quiet x hx] at htouched
    cases htouched
  rw [events, left_append, hquiet]
  rfl

lemma Sound.untouched (h : f.Sound) (hstage : f.stage.events = []) : left f.events m = some m := by
  rw [h.left_events, hstage]
  rfl

/-- What a step is for the desk and for the flight. -/
structure Moves (d d' : Desk) (f f' : Flight) (e : Option ChatEvent) : Prop where
  changes : ∃ l, d.Changes l e ∧ d' = d.after l e
  settings : d'.ledger.settings = d.ledger.settings
  events : f'.events = f.events ++ e.toList
  touched : ∀ x ∈ e, ∀ id, x.touched? = some id → id ∈ f.answers
  owns : Draft.Owns f.draft.own? e f'.draft.own?
  found : ∀ id, f'.draft = .found id → e = none ∧ (f.draft = .found id ∨ id ∈ d'.ledger.ids)
  sound : f'.Sound

lemma Moves.posts {e : Option ChatEvent} (h : Moves d d' f f' e) :
    f'.posts = f.posts ++ (e.bind (·.added?)).toList := by
  rw [Flight.posts, h.events, List.filterMap_append, Desk.filterMap_toList, ← Flight.posts]

/-- What the desk has of the messages of a flight is what the flight itself left. -/
def Seen (d : Desk) (f : Flight) : Prop :=
  ∀ m ∈ f.posts, m ∈ d.posted ∧ left d.events m = left f.events m

lemma Moves.still {stage : Stage} (hkept : d.Kept l₀) (hsound : f.Sound)
    (hevents : stage.events = f.stage.events) (hstage : stage.Fits f.draft) :
    Moves d d f { f with stage } none where
  changes := ⟨d.ledger, Desk.changes_none hkept, (Desk.after_none d).symm⟩
  settings := rfl
  events := (congrArg _ hevents).trans (List.append_nil _).symm
  touched _ hx := by cases hx
  owns := .kept _
  found _ h := ⟨rfl, .inl h⟩
  sound := { hsound with stage := hstage }

lemma ask_draft (x : Asked) : (f.ask x).draft = f.protocol.next f.draft x.call x.reply :=
  Protocol.after_snoc ..

lemma ask_goes {x : Asked} (hmay : f.protocol.may f.draft x.call)
    (hhears : f.protocol.hears f.draft x.call x.reply) :
    Draft.Goes f.sending f.draft x.event? (f.ask x).draft :=
  ask_draft x ▸ Sending.drafting_goes hmay hhears

lemma Sound.ask {x : Asked} (h : f.Sound) (hmay : f.protocol.may f.draft x.call)
    (hhears : f.protocol.hears f.draft x.call x.reply) (hstage : f.stage = .handling) :
    (f.ask x).Sound where
  expects := Protocol.expects_snoc.2 ⟨h.expects, hhears⟩
  posts := by
    rw [Flight.ask, Desk.filterMap_snoc, List.filterMap_append, h.posts, Desk.filterMap_toList]
    exact (ask_goes hmay hhears).posts.symm
  quiet := by
    rw [Flight.ask, Desk.filterMap_snoc]
    intro e he
    obtain he | he := List.mem_append.1 he
    · exact h.quiet e he
    · exact (ask_goes hmay hhears).quiet e (Option.mem_toList.1 he)
  begun hfresh := absurd hfresh (ask_goes hmay hhears).begun
  fits := (ask_goes hmay hhears).fits h.fits
  stage := by
    rw [Flight.ask, hstage]
    exact trivial

lemma asks_moves {c : Call} {reply : c.Reply} (hkept : d.Kept l₀) (hsound : f.Sound)
    (hstage : f.stage = .handling) (hwaits : f.work.Waits f.asked c) (h : d.Replies c reply d') :
    Moves d d' f (f.ask ⟨c, reply⟩) (Asked.event? ⟨c, reply⟩) := by
  have hmay : f.protocol.may f.draft c := (Sending.send_drafts _ _ _).waits hsound.expects hwaits
  have hhears : f.protocol.hears f.draft c reply := by
    cases h with
    | chats h =>
      rintro a rfl
      exact h.honest hkept
    | other h => cases c <;> first | exact trivial | exact absurd rfl (h _)
  have hgoes := ask_goes (x := ⟨c, reply⟩) hmay hhears
  have hdesk : (∃ l, d.Changes l (Asked.event? ⟨c, reply⟩) ∧
      d' = d.after l (Asked.event? ⟨c, reply⟩)) ∧ d'.ledger.settings = d.ledger.settings := by
    cases h with
    | chats h =>
      have hmodest := Sending.drafting_modest hmay
      exact ⟨h.changes hkept hmodest, h.settings hkept hmodest⟩
    | other h =>
      have hnone : Asked.event? ⟨c, reply⟩ = none := by
        cases c <;> first | rfl | exact absurd rfl (h _)
      rw [hnone]
      exact ⟨⟨d.ledger, Desk.changes_none hkept, (Desk.after_none d).symm⟩, rfl⟩
  constructor
  case changes => exact hdesk.1
  case settings => exact hdesk.2
  case events =>
    rw [events, events, ask, Desk.filterMap_snoc, hstage, Stage.events, List.append_nil,
      List.append_nil]
  case touched =>
    intro x hx id hid
    rw [hgoes.quiet x hx] at hid
    cases hid
  case owns => exact hgoes.owns
  case found =>
    intro id hfound
    rw [ask_draft] at hfound
    obtain ⟨hfound, hnone⟩ | ⟨-, other, chat, hx, rfl⟩ := Sending.drafting_found hmay hfound
    · exact ⟨hnone, .inl hfound⟩
    · cases hx
      cases h with
      | chats h =>
        obtain ⟨_, hthere, hsame⟩ := h.does hkept
        refine ⟨rfl, .inr ?_⟩
        rw [hsame]
        exact List.mem_map.2 ⟨chat, ((hthere chat).1 rfl).1, rfl⟩
      | other h => exact absurd rfl (h _)
  case sound => exact hsound.ask hmay hhears hstage

lemma Sound.relays (h : f.Sound) (hstage : f.stage = .relaying response relay log) :
    ∃ m reply turn, Relays f.draft response relay log m reply turn := by
  have hfits := h.stage
  rwa [hstage] at hfits

lemma Sound.left {cleanup : Option (Except StoreError Bool)} (h : f.Sound)
    (hstage : f.stage = .left response relay log cleanup) :
    (∃ m reply turn, Relays f.draft response relay log m reply turn) ∧
      relay.phase ≠ .settled ∧ cleanup ≠ some (.ok false) := by
  have hfits := h.stage
  rwa [hstage] at hfits

lemma Relays.mem_posts (h : Relays f.draft response relay log m reply turn) (hsound : f.Sound) :
    reply ∈ f.posts := by
  rw [hsound.posts_eq, h.held]
  exact .tail _ (.head _)

lemma Relays.sender (h : Relays f.draft response relay log m reply turn) (hsound : f.Sound) :
    reply.sender = .ai := by
  have hfits := hsound.fits
  rw [h.held] at hfits
  exact hfits.2.1

lemma Relays.id_mem (h : Relays f.draft response relay log m reply turn) (hsound : f.Sound) :
    relay.messageId ∈ f.answers := by
  have hmem : reply ∈ f.posts.filter (·.sender = .ai) :=
    List.mem_filter.2 ⟨h.mem_posts hsound, decide_eq_true (h.sender hsound)⟩
  exact List.mem_map.2 ⟨reply, hmem, (Relay.run_messageId h.run).symm⟩

/-- The message of a reply is there as long as the flight has not touched it. -/
lemma Relays.holds (h : Relays f.draft response relay log m reply turn) (hkept : d.Kept l₀)
    (hsound : f.Sound) (hseen : f.Seen d) (hstage : f.stage.events = []) :
    d.ledger.Holds relay.messageId := by
  obtain ⟨hposted, hleft⟩ := hseen reply (h.mem_posts hsound)
  rw [Relay.run_messageId h.run]
  refine (hkept.holds_iff hposted).2 ?_
  rw [hleft, hsound.untouched hstage]
  exact Option.some_ne_none reply

lemma Relays.heard {e : Relay.Event} (h : Relays f.draft response relay log m reply turn)
    (he : Relay.Answers relay.demand e)
    (hpresent : e ≠ .saved (.ok false) ∧ e ≠ .discarded (.ok false)) :
    Relays f.draft response (relay.step e).1 (log ++ [relay.exchange e]) m reply turn where
  held := h.held
  body := h.body
  empty := h.empty
  run := .step h.run he
  present x hx := by
    obtain hx | hx := List.mem_append.1 hx
    · exact h.present x hx
    · exact List.mem_singleton.1 hx ▸ hpresent

/-- A message is written or deleted. -/
inductive Amends (d : Desk) (id : Id) : Except StoreError Bool → Option ChatEvent → Desk → Prop
  | saved {text : String} {outcome : Except StoreError Bool} {d' : Desk}
    (h : d.Called (.updateMessage id text) outcome d') :
    Amends d id outcome ((ChatCall.updateMessage id text).event? outcome) d'
  | discarded {outcome : Except StoreError Bool} {d' : Desk}
    (h : d.Called (.deleteMessage id) outcome d') :
    Amends d id outcome ((ChatCall.deleteMessage id).event? outcome) d'

namespace Amends

variable {id : Id} {outcome : Except StoreError Bool} {e : Option ChatEvent}

lemma changes (h : Amends d id outcome e d') (hkept : d.Kept l₀) :
    (∃ l, d.Changes l e ∧ d' = d.after l e) ∧ d'.ledger.settings = d.ledger.settings := by
  cases h with
  | saved h => exact ⟨h.changes hkept trivial, h.settings hkept trivial⟩
  | discarded h => exact ⟨h.changes hkept trivial, h.settings hkept trivial⟩

lemma touched (h : Amends d id outcome e d') : ∀ x ∈ e, x.touched? = some id := by
  intro x hx
  cases h with
  | saved =>
    rcases outcome with _ | _ | _ <;> cases hx
    rfl
  | discarded =>
    rcases outcome with _ | _ | _ <;> cases hx
    rfl

lemma found (h : Amends d id outcome e d') (hkept : d.Kept l₀) (hholds : d.ledger.Holds id) :
    outcome ≠ .ok false := by
  rintro rfl
  cases h with
  | saved h =>
    obtain ⟨_, hdoes⟩ := h.does hkept
    exact Bool.false_ne_true (hdoes.1.2 hholds)
  | discarded h =>
    obtain ⟨_, hdoes⟩ := h.does hkept
    exact Bool.false_ne_true (hdoes.1.2 hholds)

/-- As long as it has not touched it, a flight may write or delete the message of its reply. -/
lemma moves {stage : Stage} (h : Amends d relay.messageId outcome e d') (hkept : d.Kept l₀)
    (hsound : f.Sound) (hseen : f.Seen d)
    (hrelays : Relays f.draft response relay log m reply turn) (hstage : f.stage.events = [])
    (hevents : stage.events = e.toList) (hfits : outcome ≠ .ok false → stage.Fits f.draft) :
    Moves d d' f { f with stage } e where
  changes := (h.changes hkept).1
  settings := (h.changes hkept).2
  events := by
    rw [Flight.events, Flight.events, hstage, hevents, List.append_nil]
  touched x hx id hid := by
    rw [h.touched x hx] at hid
    exact Option.some.inj hid ▸ hrelays.id_mem hsound
  owns := by
    have hnone : f.draft.own? = none := by
      rw [hrelays.held]
      rfl
    exact hnone.symm ▸ .given fun id hclosed => (by cases h.touched _ hclosed)
  found _ hfound := Draft.noConfusion (hrelays.held.symm.trans hfound)
  sound := { hsound with
    stage := hfits (h.found hkept (hrelays.holds hkept hsound hseen hstage)) }

end Amends

/-- What a relay hears comes of the model, or of a call for its own message. -/
lemma hears_amends {e : Relay.Event} (h : d.Hears relay.demand e d') :
    (Relay.Answers .item e ∧ d' = d ∧ (relay.exchange e).event? = none) ∨
      ∃ outcome, (e = .saved outcome ∨ e = .discarded outcome) ∧
        Amends d relay.messageId outcome (relay.exchange e).event? d' ∧
          relay.phase ≠ .settled := by
  generalize hdemand : relay.demand = demand at h
  cases h with
  | item he =>
    refine .inl ⟨he, rfl, ?_⟩
    rw [Relay.exchange, hdemand]
    cases he <;> rfl
  | @saved id text outcome _ h =>
    obtain ⟨rfl, hphase⟩ := Relay.demand_message (.inl ⟨text, hdemand⟩)
    refine .inr ⟨outcome, .inl rfl, ?_, hphase⟩
    rw [Relay.exchange, hdemand]
    exact .saved h
  | @discarded id outcome _ h =>
    obtain ⟨rfl, hphase⟩ := Relay.demand_message (.inr hdemand)
    refine .inr ⟨outcome, .inr rfl, ?_, hphase⟩
    rw [Relay.exchange, hdemand]
    exact .discarded h

lemma heard_moves {e : Relay.Event} (hkept : d.Kept l₀) (hsound : f.Sound) (hseen : f.Seen d)
    (hstage : f.stage = .relaying response relay log) (h : d.Hears relay.demand e d') :
    Moves d d' f { f with
      stage := .relaying response (relay.step e).1 (log ++ [relay.exchange e]) }
      (relay.exchange e).event? := by
  obtain ⟨m, reply, turn, hrelays⟩ := hsound.relays hstage
  have hevents : Relay.events (log ++ [relay.exchange e]) =
      Relay.events log ++ (relay.exchange e).event?.toList := Desk.filterMap_snoc ..
  obtain ⟨hitem, rfl, hnone⟩ | ⟨outcome, he, hamends, hphase⟩ := hears_amends h
  · have hpresent : e ≠ .saved (.ok false) ∧ e ≠ .discarded (.ok false) := by
      cases hitem <;> exact ⟨Relay.Event.noConfusion, Relay.Event.noConfusion⟩
    rw [hnone, Option.toList_none, List.append_nil] at hevents
    rw [hnone]
    refine .still hkept hsound ?_ ⟨m, reply, turn, hrelays.heard h.answers hpresent⟩
    rw [hstage]
    exact hevents
  · have hnone : Relay.events log = [] := Relay.run_unsettled hrelays.run hphase
    rw [hnone] at hevents
    refine hamends.moves hkept hsound hseen hrelays (by rw [hstage]; exact hnone) hevents
      fun hfound => ⟨m, reply, turn, hrelays.heard h.answers ?_⟩
    obtain rfl | rfl := he
    · exact ⟨fun h => hfound (Relay.Event.saved.inj h), Relay.Event.noConfusion⟩
    · exact ⟨Relay.Event.noConfusion, fun h => hfound (Relay.Event.discarded.inj h)⟩

lemma tidied_moves {outcome : Except StoreError Bool} (hkept : d.Kept l₀) (hsound : f.Sound)
    (hseen : f.Seen d) (hstage : f.stage = .left response relay log none)
    (h : d.Called (.deleteMessage relay.messageId) outcome d') :
    Moves d d' f { f with stage := .left response relay log (some outcome) }
      ((ChatCall.deleteMessage relay.messageId).event? outcome) := by
  obtain ⟨⟨m, reply, turn, hrelays⟩, hphase, -⟩ := hsound.left hstage
  have hnone : Relay.events log = [] := Relay.run_unsettled hrelays.run hphase
  refine (Amends.discarded h).moves hkept hsound hseen hrelays ?_ ?_ fun hfound =>
    ⟨⟨m, reply, turn, hrelays⟩, hphase, fun h => hfound (Option.some.inj h)⟩
  · rw [hstage, Stage.events, hnone]
    rfl
  · rw [Stage.events, hnone]
    rfl

/-- Where the messages of a flight are as it left them, a step changes nothing but the message of
its reply. -/
theorem Step.moves (h : Step d f d' f') (hkept : d.Kept l₀) (hsound : f.Sound) (hseen : f.Seen d) :
    ∃ e, Moves d d' f f' e := by
  have hends {out : Except Refusal Http.Response} (hran : f.work.Ran f.asked out) :
      Sending.Drafted f.draft out := (Sending.send_drafts _ _ _).ran hsound.expects hran
  cases h with
  | asks hstage hwaits h => exact ⟨_, asks_moves hkept hsound hstage hwaits h⟩
  | refused hstage hran => exact ⟨_, .still hkept hsound (by rw [hstage]; rfl) (hends hran)⟩
  | @dropped c hstage hwaits =>
    have hmay : f.protocol.may f.draft c := (Sending.send_drafts _ _ _).waits hsound.expects hwaits
    refine ⟨_, .still hkept hsound (by rw [hstage]; rfl) fun m reply hheld => ?_⟩
    rw [hheld] at hmay
    exact hmay
  | answered hstage hran hbody =>
    obtain ⟨m, reply, turn, stream, hheld, hreply, hempty⟩ := hends hran
    obtain ⟨rfl, -⟩ := Body.reply.inj (hbody.symm.trans hreply)
    exact ⟨_, .still hkept hsound (by rw [hstage]; rfl) ⟨m, reply, turn, hheld, ⟨stream, hreply⟩,
      hempty, .start, List.forall_mem_nil _⟩⟩
  | heard hstage h => exact ⟨_, heard_moves hkept hsound hseen hstage h⟩
  | left hstage harmed =>
    exact ⟨_, .still hkept hsound (by rw [hstage]; exact List.append_nil _)
      ⟨hsound.relays hstage, of_decide_eq_true harmed, fun h => (by cases h)⟩⟩
  | tidied hstage h => exact ⟨_, tidied_moves hkept hsound hseen hstage h⟩

end Flight

end Parley
