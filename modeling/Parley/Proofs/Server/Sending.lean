import Parley.Proofs.Agent.Execution
import Parley.Proofs.Server.Calls
import Parley.Proofs.Server.Handling
import Parley.Server.Sending

/-!
# How sending a message comes out

Sending a message looks up what it needs, saves the message, runs a plan and makes the message for
the reply. It stops at the first reply that is of no use, and which one that is decides what it
answers and what it leaves (`Sends`).
-/

namespace Parley.Sending

/-- A reply on which a message is turned away before anything is changed. -/
inductive Turned : Asked → Refusal → Prop
  | chatFailed (id : Id) (e : StoreError) :
    Turned ⟨.chats (.get id), .error e⟩ (.internal "Could not load chat")
  | noChat (id : Id) : Turned ⟨.chats (.get id), .ok none⟩ (.absent "Chat" id)
  | settingsFailed (e : StoreError) :
    Turned ⟨.chats .settings, .error e⟩ (.internal "Could not load settings")
  | agentFailed (id : Id) (e : StoreError) :
    Turned ⟨.agents (.get id), .error e⟩ (.internal "Could not load agent")
  | noAgent (id : Id) : Turned ⟨.agents (.get id), .ok none⟩ (.absent "Agent" id)
  | badAgent (id : Id) {a : Agent} {fault : DefinitionFault} (h : Plan.ofAgent a = .error fault) :
    Turned ⟨.agents (.get id), .ok (some a)⟩ (.internal "Agent definition is invalid")

/-- What is looked up before a message is saved, and the chat that it goes to if that is there. -/
inductive Finds : Option Id → List Asked → Option Chat → Prop
  | new {log : List Asked} (h : ∀ x ∈ log, x.call.isLookup) : Finds none log none
  | there {id : Id} {chat : Chat} {log : List Asked} (h : ∀ x ∈ log, x.call.isLookup) :
    Finds (some id) (⟨.chats (.get id), .ok (some chat)⟩ :: log) (some chat)

/-- The chat that is made for a message. -/
def newChat (s : Sending) (stamp : Stamp) : Chat :=
  Chat.new stamp (Chat.nameOf s.message) ⟨s.prompt, s.agent⟩

/-- A message is saved in a chat that is there, or in one that is made for it. -/
inductive Saves (s : Sending) : Option Chat → List Asked → Turn → Prop
  | there (chat : Chat) (sent : Message) : Saves s (some chat)
    [⟨.chats (.addMessage chat.id .human s.message), .ok sent⟩] (.new chat.id sent.id false)
  | new (stamp : Stamp) (made : Chat) (sent : Message) : Saves s none
    [⟨.stamp, stamp⟩, ⟨.chats (.create (s.newChat stamp)), .ok made⟩,
      ⟨.chats (.addMessage made.id .human s.message), .ok sent⟩] (.new made.id sent.id true)

/-- A message is not saved. A chat that was made for it is deleted again. -/
inductive Unsaved (s : Sending) : Option Chat → List Asked → Refusal → Prop
  | unsent (chat : Chat) (e : StoreError) : Unsaved s (some chat)
    [⟨.chats (.addMessage chat.id .human s.message), .error e⟩] (.internal "Could not send message")
  | uncreated (stamp : Stamp) (e : StoreError) : Unsaved s none
    [⟨.stamp, stamp⟩, ⟨.chats (.create (s.newChat stamp)), .error e⟩]
    (.internal "Could not create chat")
  | undone (stamp : Stamp) (made : Chat) (e : StoreError) (reply : Except StoreError Bool) :
    Unsaved s none
      [⟨.stamp, stamp⟩, ⟨.chats (.create (s.newChat stamp)), .ok made⟩,
        ⟨.chats (.addMessage made.id .human s.message), .error e⟩,
        ⟨.chats (.delete made.id), reply⟩]
      (.internal "Could not create chat")

/-- The ways in which sending a message comes out, by what is replied to its calls. -/
inductive Sends (s : Sending) (id : Option Id) : List Asked → Except Refusal Http.Response → Prop
  | turned {log : List Asked} {x : Asked} {r : Refusal} (hlog : ∀ x ∈ log, x.call.isLookup)
    (hx : Turned x r) : Sends s id (log ++ [x]) (.error r)
  | unsaved {looks log : List Asked} {chat : Option Chat} {r : Refusal}
    (hlooks : Finds id looks chat) (h : Unsaved s chat log r) : Sends s id (looks ++ log) (.error r)
  | unanswered {looks saves asks : List Asked} {chat : Option Chat} {turn : Turn} {plan : Plan}
    {c c' : Context} {e : RunError} (hlooks : Finds id looks chat)
    (hsaves : Saves s chat saves turn) (hrun : (plan.run c).Ran asks (c', .error e)) :
    Sends s id (looks ++ saves ++ asks) (.error (.internal "Could not generate a response"))
  | unheld {looks saves asks : List Asked} {chat : Option Chat} {turn : Turn} {plan : Plan}
    {c c' : Context} {stream : Stream} (hlooks : Finds id looks chat)
    (hsaves : Saves s chat saves turn) (hrun : (plan.run c).Ran asks (c', .ok stream))
    (e : StoreError) :
    Sends s id (looks ++ saves ++ asks ++ [⟨.chats (.addMessage turn.chatId .ai ""), .error e⟩])
      (.error (.internal "Could not create AI message"))
  | answered {looks saves asks : List Asked} {chat : Option Chat} {turn turn' : Turn} {plan : Plan}
    {c c' : Context} {stream : Stream} {reply : Message} (hlooks : Finds id looks chat)
    (hsaves : Saves s chat saves turn) (hrun : (plan.run c).Ran asks (c', .ok stream))
    (hturn : turn.placeholderCreated reply.id = .ok turn') :
    Sends s id (looks ++ saves ++ asks ++ [⟨.chats (.addMessage turn.chatId .ai ""), .ok reply⟩])
      (.ok (response reply.id turn' stream))

open Handler

variable {log : List Asked}

lemma ran_chatFor {id : Option Id} {out : Except Refusal (Option Chat)}
    (h : Ran (chatFor id) log out) :
    (∃ chat, out = .ok chat ∧ Finds id log chat) ∨
      ∃ x r, log = [x] ∧ out = .error r ∧ Turned x r := by
  cases id with
  | none =>
    obtain ⟨rfl, rfl⟩ := ran_pure_iff.1 h
    exact .inl ⟨none, rfl, .new (List.forall_mem_nil _)⟩
  | some id =>
    obtain ⟨r, hget, rfl⟩ | ⟨front, rest, found, rfl, hget, hrest⟩ := ran_bind_iff.1 h
    · obtain ⟨e | a, rfl, hr⟩ := ran_chats_iff.1 hget <;> cases hr
      exact .inr ⟨_, _, rfl, rfl, .chatFailed id e⟩
    · obtain ⟨e | a, rfl, hfound⟩ := ran_chats_iff.1 hget <;> cases hfound
      obtain ⟨r, habsent, rfl⟩ | ⟨front, rest, chat, rfl, hchat, hdone⟩ := ran_bind_iff.1 hrest
      · obtain ⟨rfl, hr⟩ := ran_orAbsent_iff.1 habsent
        cases found <;> cases hr
        exact .inr ⟨_, _, rfl, rfl, .noChat id⟩
      · obtain ⟨rfl, hr⟩ := ran_orAbsent_iff.1 hchat
        obtain ⟨rfl, rfl⟩ := ran_pure_iff.1 hdone
        cases found <;> cases hr
        exact .inl ⟨_, rfl, .there (List.forall_mem_nil _)⟩

lemma ran_planFor {agent : Option Id} {prompt : String} {out : Except Refusal Plan}
    (h : Ran (planFor agent prompt) log out) :
    (∃ plan, out = .ok plan ∧ ∀ x ∈ log, x.call.isLookup) ∨
      ∃ x r, log = [x] ∧ out = .error r ∧ Turned x r := by
  cases agent with
  | none =>
    obtain ⟨rfl, rfl⟩ := ran_pure_iff.1 h
    exact .inl ⟨_, rfl, List.forall_mem_nil _⟩
  | some id =>
    obtain ⟨r, hget, rfl⟩ | ⟨front, rest, found, rfl, hget, hrest⟩ := ran_bind_iff.1 h
    · obtain ⟨e | a, rfl, hr⟩ := ran_agents_iff.1 hget <;> cases hr
      exact .inr ⟨_, _, rfl, rfl, .agentFailed id e⟩
    · obtain ⟨e | a, rfl, hfound⟩ := ran_agents_iff.1 hget <;> cases hfound
      obtain ⟨r, habsent, rfl⟩ | ⟨front, rest, a, rfl, hagent, hplan⟩ := ran_bind_iff.1 hrest
      · obtain ⟨rfl, hr⟩ := ran_orAbsent_iff.1 habsent
        cases found <;> cases hr
        exact .inr ⟨_, _, rfl, rfl, .noAgent id⟩
      · obtain ⟨rfl, hr⟩ := ran_orAbsent_iff.1 hagent
        cases found <;> cases hr
        split at hplan
        · obtain ⟨rfl, rfl⟩ := ran_pure_iff.1 hplan
          exact .inl ⟨_, rfl, by simp [Call.isLookup]⟩
        · next hfault =>
          obtain ⟨rfl, rfl⟩ := ran_refuse_iff.1 hplan
          exact .inr ⟨_, _, rfl, rfl, .badAgent id hfault⟩

lemma ran_saveIn {s : Sending} {chat : Chat} {out : Except Refusal Turn}
    (h : Ran (s.saveIn chat) log out) :
    (∃ turn, out = .ok turn ∧ Saves s (some chat) log turn) ∨
      ∃ r, out = .error r ∧ Unsaved s (some chat) log r := by
  obtain ⟨r, hadd, rfl⟩ | ⟨front, rest, sent, rfl, hadd, hdone⟩ := ran_bind_iff.1 h
  · obtain ⟨e | a, rfl, hr⟩ := ran_chats_iff.1 hadd <;> cases hr
    exact .inr ⟨_, rfl, .unsent chat e⟩
  · obtain ⟨e | a, rfl, hr⟩ := ran_chats_iff.1 hadd <;> cases hr
    obtain ⟨rfl, rfl⟩ := ran_pure_iff.1 hdone
    exact .inl ⟨_, rfl, .there chat sent⟩

lemma ran_saveInNew {s : Sending} {out : Except Refusal Turn}
    (h : Ran (s.saveInNew s.agent) log out) :
    (∃ turn, out = .ok turn ∧ Saves s none log turn) ∨
      ∃ r, out = .error r ∧ Unsaved s none log r := by
  obtain ⟨r, hstamp, rfl⟩ | ⟨front, rest, stamp, rfl, hstamp, hrest⟩ := ran_bind_iff.1 h
  · obtain ⟨stamp, -, hr⟩ := ran_stamp_iff.1 hstamp
    cases hr
  obtain ⟨_, rfl, hr⟩ := ran_stamp_iff.1 hstamp
  cases hr
  obtain ⟨r, hcreate, rfl⟩ | ⟨front, rest, made, rfl, hcreate, hadd⟩ := ran_bind_iff.1 hrest
  · obtain ⟨e | a, rfl, hr⟩ := ran_chats_iff.1 hcreate <;> cases hr
    exact .inr ⟨_, rfl, .uncreated stamp e⟩
  obtain ⟨e | a, rfl, hr⟩ := ran_chats_iff.1 hcreate <;> cases hr
  obtain ⟨reply, rest, rfl, htold⟩ := ran_call_bind_iff.1 hadd
  cases reply with
  | ok sent =>
    obtain ⟨rfl, rfl⟩ := ran_pure_iff.1 htold
    exact .inl ⟨_, rfl, .new stamp made sent⟩
  | error e =>
    obtain ⟨reply, rest, rfl, hdeleted⟩ := ran_call_bind_iff.1 htold
    obtain ⟨rfl, rfl⟩ := ran_refuse_iff.1 hdeleted
    exact .inr ⟨_, rfl, .undone stamp made e reply⟩

lemma ran_answer {plan : Plan} {c : Context} {out : Except Refusal Stream}
    (h : Ran (answer plan c) log out) :
    ∃ c' found, (plan.run c).Ran log (c', found) ∧
      out = found.mapError fun _ => .internal "Could not generate a response" := by
  obtain ⟨r, hrun, rfl⟩ | ⟨front, rest, ⟨c', found⟩, rfl, hrun, hrest⟩ := ran_bind_iff.1 h
  · obtain ⟨a, hr, -⟩ := ran_lift_iff.1 hrun
    cases hr
  obtain ⟨_, hr, hrun⟩ := ran_lift_iff.1 hrun
  cases hr
  cases found with
  | error e =>
    obtain ⟨rfl, rfl⟩ := ran_refuse_iff.1 hrest
    exact ⟨c', _, (List.append_nil front).symm ▸ hrun, rfl⟩
  | ok stream =>
    obtain ⟨rfl, rfl⟩ := ran_pure_iff.1 hrest
    exact ⟨c', _, (List.append_nil front).symm ▸ hrun, rfl⟩

lemma ran_holdPlace {turn : Turn} {out : Except Refusal (Id × Turn)}
    (hturn : turn.state = .userMessageSaved) (h : Ran (holdPlace turn) log out) :
    ∃ reply : Except StoreError Message, log = [⟨.chats (.addMessage turn.chatId .ai ""), reply⟩] ∧
      ((∃ e, reply = .error e ∧ out = .error (.internal "Could not create AI message")) ∨
        ∃ m turn', reply = .ok m ∧ turn.placeholderCreated m.id = .ok turn' ∧
          out = .ok (m.id, turn')) := by
  obtain ⟨r, hadd, rfl⟩ | ⟨front, rest, m, rfl, hadd, hrest⟩ := ran_bind_iff.1 h
  · obtain ⟨e | a, rfl, hr⟩ := ran_chats_iff.1 hadd <;> cases hr
    exact ⟨_, rfl, .inl ⟨e, rfl, rfl⟩⟩
  obtain ⟨e | a, rfl, hr⟩ := ran_chats_iff.1 hadd <;> cases hr
  have hplaced : turn.placeholderCreated m.id =
      .ok { turn with state := .aiPlaceholderCreated, aiMessageId := some m.id } := by
    rw [Turn.placeholderCreated, Turn.advance, hturn]
    rfl
  rw [hplaced] at hrest
  obtain ⟨rfl, rfl⟩ := ran_pure_iff.1 hrest
  exact ⟨_, rfl, .inr ⟨m, _, rfl, hplaced, rfl⟩⟩

lemma Saves.state {s : Sending} {chat : Option Chat} {turn : Turn} (h : Saves s chat log turn) :
    turn.state = .userMessageSaved := by
  cases h <;> rfl

/-- What follows once everything was looked up that is needed. -/
lemma sends_of_finds {s : Sending} {id : Option Id} {looks : List Asked} {chat : Option Chat}
    {plan : Plan} {c : Context} {save : Handler Turn} {out : Except Refusal Http.Response}
    (hlooks : Finds id looks chat)
    (hsave : ∀ {log out}, Ran save log out → (∃ turn, out = .ok turn ∧ Saves s chat log turn) ∨
      ∃ r, out = .error r ∧ Unsaved s chat log r)
    (h : Ran (do
      let turn ← save
      let stream ← answer plan c
      let (reply, turn) ← holdPlace turn
      return response reply turn stream) log out) : Sends s id (looks ++ log) out := by
  obtain ⟨r, hsaved, rfl⟩ | ⟨saves, rest, turn, rfl, hsaved, hanswers⟩ := ran_bind_iff.1 h
  · obtain ⟨_, hr, -⟩ | ⟨_, hr, hunsaved⟩ := hsave hsaved <;> cases hr
    exact .unsaved hlooks hunsaved
  obtain ⟨_, hr, hsaves⟩ | ⟨_, hr, -⟩ := hsave hsaved <;> cases hr
  rw [← List.append_assoc]
  obtain ⟨r, hanswer, rfl⟩ | ⟨asks, rest, stream, rfl, hanswer, hholds⟩ := ran_bind_iff.1 hanswers
  · obtain ⟨c', e | stream, hrun, hr⟩ := ran_answer hanswer <;> cases hr
    exact .unanswered hlooks hsaves hrun
  obtain ⟨c', e | stream, hrun, hr⟩ := ran_answer hanswer <;> cases hr
  rw [← List.append_assoc]
  obtain ⟨r, hhold, rfl⟩ | ⟨held, rest, ⟨m, turn'⟩, rfl, hhold, hdone⟩ := ran_bind_iff.1 hholds
  · obtain ⟨reply, rfl, ⟨e, rfl, hr⟩ | ⟨m, turn', rfl, hturn, hr⟩⟩ :=
      ran_holdPlace hsaves.state hhold <;> cases hr
    exact .unheld hlooks hsaves hrun e
  obtain ⟨reply, rfl, ⟨e, rfl, hr⟩ | ⟨m, turn', rfl, hturn, hr⟩⟩ :=
    ran_holdPlace hsaves.state hhold <;> cases hr
  obtain ⟨rfl, rfl⟩ := ran_pure_iff.1 hdone
  rw [List.append_nil]
  exact .answered hlooks hsaves hrun hturn

lemma Finds.append {id : Option Id} {looks more : List Asked} {chat : Option Chat}
    (h : Finds id looks chat) (hmore : ∀ x ∈ more, x.call.isLookup) :
    Finds id (looks ++ more) chat := by
  cases h with
  | new h => exact .new fun x hx => (List.mem_append.1 hx).elim (h x) (hmore x)
  | there h => exact .there fun x hx => (List.mem_append.1 hx).elim (h x) (hmore x)

lemma Finds.lookups {id : Option Id} {looks : List Asked} {chat : Option Chat}
    (h : Finds id looks chat) : ∀ x ∈ looks, x.call.isLookup := by
  cases h with
  | new h => exact h
  | there h => exact List.forall_mem_cons.2 ⟨rfl, h⟩

/-- Whatever is replied to it, sending a message comes out in one of these ways. -/
theorem ran_send {default : String} {id : Option Id} {s : Sending}
    {out : Except Refusal Http.Response} (h : Ran (s.send default id) log out) :
    Sends s id log out := by
  obtain ⟨r, hchat, rfl⟩ | ⟨front, rest, chat, rfl, hchat, hafter⟩ := ran_bind_iff.1 h
  · obtain ⟨_, hr, -⟩ | ⟨x, r, rfl, hr, hx⟩ := ran_chatFor hchat <;> cases hr
    exact @Sends.turned _ _ [] _ _ (List.forall_mem_nil _) hx
  obtain ⟨_, hr, hfinds⟩ | ⟨x, r, rfl, hr, -⟩ := ran_chatFor hchat <;> cases hr
  obtain ⟨r, hsettings, rfl⟩ | ⟨looked, rest, shared, rfl, hsettings, hplans⟩ :=
    ran_bind_iff.1 hafter
  · obtain ⟨e | a, rfl, hr⟩ := ran_chats_iff.1 hsettings <;> cases hr
    exact .turned hfinds.lookups (.settingsFailed e)
  obtain ⟨e | a, rfl, hr⟩ := ran_chats_iff.1 hsettings <;> cases hr
  have hfinds' := @hfinds.append _ _ [⟨.chats .settings, .ok shared⟩] _
    (by simp [Call.isLookup, ChatCall.writes])
  rw [← List.append_assoc]
  obtain ⟨r, hplan, rfl⟩ | ⟨planned, rest, plan, rfl, hplan, hsaves⟩ := ran_bind_iff.1 hplans
  · obtain ⟨_, hr, -⟩ | ⟨x, r, rfl, hr, hx⟩ := ran_planFor hplan <;> cases hr
    exact .turned hfinds'.lookups hx
  obtain ⟨_, hr, hplanned⟩ | ⟨x, r, rfl, hr, -⟩ := ran_planFor hplan <;> cases hr
  rw [← List.append_assoc]
  cases chat with
  | none => exact sends_of_finds (hfinds'.append hplanned) ran_saveInNew hsaves
  | some chat => exact sends_of_finds (hfinds'.append hplanned) ran_saveIn hsaves

end Parley.Sending
