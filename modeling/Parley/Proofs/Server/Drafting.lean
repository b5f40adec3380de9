import Parley.Proofs.Chat.Calling
import Parley.Proofs.Server.Protocol
import Parley.Server.Sending

/-!
# Sending a message, call by call

What the work for a message may ask for next is known from the replies so far (`Sending.drafting`):
it saves one message of a human, and makes one for the reply in the same chat when the answer has
begun. What it comes to fits (`Sending.send_drafts`).
-/

namespace Parley

open Handler

/-- What was done to the chats. -/
def Asked.event? : Asked → Option ChatEvent
  | ⟨.chats c, reply⟩ => c.event? reply
  | _ => none

namespace Sending

/-- How far the work for a message has got. -/
inductive Draft
  | fresh
  /-- There is nothing more to ask for. -/
  | stopped
  /-- There is no chat yet. -/
  | chatless
  | found (chat : Id)
  | made (chat : Id)
  /-- The message could not be saved in the chat that was made for it. -/
  | spoiled (chat : Id)
  | sent (m : Message)
  | held (m reply : Message)

/-- The calls that are made for a message, one after the other. -/
def drafting (s : Sending) (id : Option Id) : Protocol Draft where
  may
    | .fresh, c => c = id.elim (.chats .settings) fun id => .chats (.get id)
    | .chatless, c => (∃ a, c = .agents (.get a)) ∨ c = .stamp ∨
      ∃ chat : Chat, chat.messages = [] ∧ c = .chats (.create chat)
    | .found chat, c => c = .chats .settings ∨ (∃ a, c = .agents (.get a)) ∨
      c = .chats (.addMessage chat .human s.message)
    | .made chat, c => c = .chats (.addMessage chat .human s.message)
    | .spoiled chat, c => c = .chats (.delete chat)
    | .sent m, c => (∃ r, c = .invoke r) ∨ (∃ r, c = .openStream r) ∨
      c = .chats (.addMessage m.chatId .ai "")
    | .stopped, _ => False
    | .held _ _, _ => False
  hears
    | _, .chats c, reply => ∀ a, reply = .ok a → c.Honest a
    | _, _, _ => True
  next
    | .fresh, .chats (.get _), .ok (some (chat : Chat)) => .found chat.id
    | .fresh, .chats .settings, .ok _ => .chatless
    | .fresh, _, _ => .stopped
    | .chatless, .chats (.create _), .ok (made : Chat) => .made made.id
    | .found _, .chats (.addMessage _ _ _), .ok m => .sent m
    | .made _, .chats (.addMessage _ _ _), .ok m => .sent m
    | .made chat, .chats (.addMessage _ _ _), .error _ => .spoiled chat
    | .spoiled _, _, _ => .stopped
    | .sent m, .chats (.addMessage _ _ _), .ok reply => .held m reply
    | d, _, _ => d

/-- What the work for a message comes to: if it is answered, the reply is relayed into the message
that was made for it. -/
def Drafted : Draft → Except Refusal Http.Response → Prop
  | d, .ok response => ∃ m reply turn stream, d = .held m reply ∧
    response.body = .reply { messageId := reply.id, turn } stream ∧ turn.aiText = ""
  | d, .error _ => ∀ m reply, d ≠ .held m reply

variable {s : Sending} {id : Option Id} {d : Draft}

lemma planFor_drafts (hd : d = .chatless ∨ ∃ chat, d = .found chat) (agent : Option Id)
    (prompt : String) : (planFor agent prompt).Keeps (drafting s id) (fun d' _ => d' = d) d := by
  cases agent with
  | none => rfl
  | some agent =>
    have hmay : (drafting s id).may d (.agents (.get agent)) := by
      obtain rfl | ⟨chat, rfl⟩ := hd
      · exact .inl ⟨agent, rfl⟩
      · exact .inr (.inl ⟨agent, rfl⟩)
    have hnext : ∀ reply, (drafting s id).next d (.agents (.get agent)) reply = d := by
      obtain rfl | ⟨chat, rfl⟩ := hd <;> exact fun _ => rfl
    refine keeps_bind_iff.2 (keeps_agents_iff.2 ⟨hmay, fun reply _ => ?_⟩)
    rw [hnext]
    cases reply with
    | error e => rfl
    | ok found =>
      refine keeps_bind_iff.2 (keeps_orAbsent_iff.2 ?_)
      cases found with
      | none => rfl
      | some a =>
        simp only [Option.elim_some, andThen]
        cases Plan.ofAgent a <;> rfl

/-- The message is saved. -/
def Saved : Draft → Except Refusal Turn → Prop
  | d, .ok turn => ∃ m created, d = .sent m ∧ turn = .new m.chatId m.id created
  | d, .error _ => ∀ m reply, d ≠ .held m reply

lemma saveIn_drafts (s : Sending) (chat : Chat) :
    (s.saveIn chat).Keeps (drafting s id) Saved (.found chat.id) := by
  refine keeps_bind_iff.2 (keeps_chats_iff.2 ⟨.inr (.inr rfl), fun reply hreply => ?_⟩)
  cases reply with
  | error e => exact fun _ _ => Draft.noConfusion
  | ok m =>
    obtain ⟨hchat, -⟩ := hreply m rfl
    exact ⟨m, false, rfl, by rw [hchat]⟩

lemma saveInNew_drafts (s : Sending) (agent : Option Id) :
    (s.saveInNew agent).Keeps (drafting s id) Saved .chatless := by
  refine keeps_bind_iff.2 (keeps_stamp_iff.2 ⟨.inr (.inl rfl), fun stamp _ => ?_⟩)
  refine keeps_bind_iff.2 (keeps_chats_iff.2 ⟨.inr (.inr ⟨_, rfl, rfl⟩), fun reply hreply => ?_⟩)
  cases reply with
  | error e => exact fun _ _ => Draft.noConfusion
  | ok made =>
    refine keeps_call_bind_iff.2 ⟨rfl, fun reply hreply => ?_⟩
    cases reply with
    | ok m =>
      obtain ⟨hchat, -⟩ := hreply m rfl
      exact ⟨m, true, rfl, by rw [hchat]⟩
    | error e => exact keeps_call_bind_iff.2 ⟨rfl, fun _ _ _ _ => Draft.noConfusion⟩

lemma answer_drafts (m : Message) (plan : Plan) (c : Context) :
    (answer plan c).Keeps (drafting s id) (fun d _ => d = .sent m) (.sent m) := by
  refine keeps_bind_iff.2 (keeps_lift_iff.2 (Plan.keeps_run ?_ ?_ ?_))
  · exact fun r => ⟨.inl ⟨r, rfl⟩, fun _ => rfl⟩
  · exact fun r => ⟨.inr (.inl ⟨r, rfl⟩), fun _ => rfl⟩
  · rintro ⟨c', e | stream⟩ <;> rfl

/-- A place is held for the reply to a message that is saved. -/
lemma reply_drafts (m : Message) (created : Bool) (plan : Plan) (c : Context) :
    Keeps (drafting s id) Drafted (.sent m) (do
      let stream ← answer plan c
      let held ← holdPlace (.new m.chatId m.id created)
      return response held.1 held.2 stream) := by
  refine keeps_bind_iff.2 ((answer_drafts m plan c).mono ?_)
  rintro _ (r | stream) rfl
  · exact fun _ _ => Draft.noConfusion
  refine keeps_bind_iff.2 (keeps_bind_iff.2 (keeps_chats_iff.2 ⟨.inr (.inr rfl), fun out _ => ?_⟩))
  cases out with
  | error e => exact fun _ _ => Draft.noConfusion
  | ok reply => exact ⟨m, reply, _, stream, rfl, rfl, rfl⟩

/-- Whatever is replied to it, the work for a message goes on as it may. -/
theorem send_drafts (default : String) (id : Option Id) (s : Sending) :
    (s.send default id).Keeps (drafting s id) Drafted .fresh := by
  have hsaved {save : Handler Turn} {d : Draft} (plan : Plan) (c : Context)
      (hsave : save.Keeps (drafting s id) Saved d) : Keeps (drafting s id) Drafted d (do
        let turn ← save
        let stream ← answer plan c
        let held ← holdPlace turn
        return response held.1 held.2 stream) := by
    refine keeps_bind_iff.2 (hsave.mono ?_)
    rintro d (r | turn) hturn
    · exact hturn
    · obtain ⟨m, created, rfl, rfl⟩ := hturn
      exact reply_drafts m created plan c
  cases id with
  | none =>
    refine keeps_bind_iff.2 (keeps_bind_iff.2 (keeps_chats_iff.2 ⟨rfl, fun reply _ => ?_⟩))
    cases reply with
    | error e => exact fun _ _ => Draft.noConfusion
    | ok shared =>
      refine keeps_bind_iff.2 ((planFor_drafts (.inl rfl) _ _).mono ?_)
      rintro _ (r | plan) rfl
      · exact fun _ _ => Draft.noConfusion
      · exact hsaved plan _ (saveInNew_drafts s _)
  | some id =>
    refine keeps_bind_iff.2 (keeps_bind_iff.2 (keeps_chats_iff.2 ⟨rfl, fun reply hreply => ?_⟩))
    cases reply with
    | error e => exact fun _ _ => Draft.noConfusion
    | ok found =>
      refine keeps_bind_iff.2 (keeps_orAbsent_iff.2 ?_)
      cases found with
      | none => exact fun _ _ => Draft.noConfusion
      | some chat =>
        refine keeps_bind_iff.2 (keeps_chats_iff.2 ⟨.inl rfl, fun reply _ => ?_⟩)
        cases reply with
        | error e => exact fun _ _ => Draft.noConfusion
        | ok shared =>
          refine keeps_bind_iff.2 ((planFor_drafts (.inr ⟨_, rfl⟩) _ _).mono ?_)
          rintro _ (r | plan) rfl
          · exact fun _ _ => Draft.noConfusion
          · exact hsaved plan _ (saveIn_drafts s chat)

lemma drafting_modest {c : ChatCall} (h : (drafting s id).may d (.chats c)) : c.Modest := by
  cases d with
  | fresh =>
    cases id with
    | none =>
      cases h
      exact trivial
    | some id =>
      cases h
      exact trivial
  | stopped => exact h.elim
  | chatless =>
    obtain ⟨a, h⟩ | h | ⟨chat, hempty, h⟩ := h
    · cases h
    · cases h
    · cases h
      exact hempty
  | found chat =>
    obtain h | ⟨a, h⟩ | h := h <;> cases h
    · exact trivial
    · exact trivial
  | sent m =>
    obtain ⟨r, h⟩ | ⟨r, h⟩ | h := h <;> cases h
    exact trivial
  | held => exact h.elim
  | _ =>
    cases h
    exact trivial

namespace Draft

/-- The messages that were saved. -/
def posts : Draft → List Message
  | sent m => [m]
  | held m reply => [m, reply]
  | _ => []

/-- The chat that was made and has no message yet. -/
def own? : Draft → Option Id
  | made chat => some chat
  | spoiled chat => some chat
  | _ => none

/-- The messages are of a human, with what was sent, and of the model, still empty. -/
def Fits (s : Sending) : Draft → Prop
  | sent m => m.sender = .human ∧ m.content = s.message
  | held m reply => (m.sender = .human ∧ m.content = s.message) ∧
    reply.sender = .ai ∧ reply.content = "" ∧ reply.chatId = m.chatId
  | _ => True

lemma Fits.content {d : Draft} {m : Message} (h : d.Fits s) (hm : m ∈ d.posts)
    (hsender : m.sender = .human) : m.content = s.message := by
  cases d with
  | sent sent =>
    obtain rfl := List.mem_singleton.1 hm
    exact h.2
  | held sent reply =>
    obtain ⟨hsent, hreply, -⟩ := h
    obtain rfl | hm := List.mem_cons.1 hm
    · exact hsent.2
    · obtain rfl := List.mem_singleton.1 hm
      cases hsender.symm.trans hreply
  | _ => cases hm

/-- Without a message for the reply, there are only those of humans. -/
lemma Fits.sender {d : Draft} {m : Message} (h : d.Fits s) (hd : ∀ m reply, d ≠ .held m reply)
    (hm : m ∈ d.posts) : m.sender = .human := by
  cases d with
  | sent sent =>
    obtain rfl := List.mem_singleton.1 hm
    exact h.1
  | held sent reply => exact absurd rfl (hd sent reply)
  | _ => cases hm

/-- A chat comes to be one's own when it is opened, and only one's own is closed. -/
inductive Owns : Option Id → Option ChatEvent → Option Id → Prop
  | kept (own : Option Id) : Owns own none own
  | opened (chat : Chat) : Owns none (some (.opened chat)) (some chat.id)
  | given {own : Option Id} {e : Option ChatEvent}
    (h : ∀ id, e = some (.closed id) → own = some id) : Owns own e none

/-- What passes in a call that is an event for the chats, or none. -/
structure Goes (s : Sending) (d : Draft) (e : Option ChatEvent) (d' : Draft) : Prop where
  posts : d'.posts = d.posts ++ (e.bind (·.added?)).toList
  quiet : ∀ x ∈ e, x.touched? = none
  fits : d.Fits s → d'.Fits s
  begun : d' ≠ .fresh
  owns : Owns d.own? e d'.own?

/-- Nothing was done to the chats. -/
lemma Goes.idle {d d' : Draft} (hposts : d'.posts = d.posts) (hfits : d.Fits s → d'.Fits s)
    (hbegun : d' ≠ .fresh) (howns : d'.own? = d.own? ∨ d'.own? = none) : Goes s d none d' where
  posts := hposts.trans (List.append_nil _).symm
  quiet _ hx := by cases hx
  fits := hfits
  begun := hbegun
  owns := by
    obtain hsame | hnone := howns
    · exact hsame ▸ .kept _
    · exact hnone ▸ .given fun _ h => (by cases h)

lemma Goes.nowhere (hd : d ≠ .fresh) : Goes s d none d := .idle rfl (fun h => h) hd (.inl rfl)

end Draft

/-- The message of the human is saved. -/
lemma goes_sent {chat : Id} {m : Message} (hd : d.posts = [])
    (hm : m.chatId = chat ∧ m.sender = .human ∧ m.content = s.message) :
    Draft.Goes s d (some (.added m)) (.sent m) where
  posts := by rw [hd]; rfl
  quiet x hx := by cases hx; rfl
  fits _ := hm.2
  begun := Draft.noConfusion
  owns := .given fun _ h => by cases h

theorem drafting_goes {c : Call} {reply : c.Reply} (hmay : (drafting s id).may d c)
    (hhears : (drafting s id).hears d c reply) :
    Draft.Goes s d (Asked.event? ⟨c, reply⟩) ((drafting s id).next d c reply) := by
  cases d with
  | fresh =>
    cases id with
    | none =>
      obtain rfl := hmay
      cases reply <;> exact .idle rfl (fun _ => trivial) Draft.noConfusion (.inl rfl)
    | some id =>
      obtain rfl := hmay
      rcases reply with _ | _ | _ <;>
        exact .idle rfl (fun _ => trivial) Draft.noConfusion (.inl rfl)
  | stopped => exact hmay.elim
  | chatless =>
    obtain ⟨a, rfl⟩ | rfl | ⟨chat, -, rfl⟩ := hmay
    · exact .nowhere Draft.noConfusion
    · exact .nowhere Draft.noConfusion
    · cases reply with
      | error e => exact .nowhere Draft.noConfusion
      | ok made =>
        refine ⟨rfl, fun x hx => ?_, fun _ => trivial, Draft.noConfusion, .opened made⟩
        cases hx
        rfl
  | found chat =>
    obtain rfl | ⟨a, rfl⟩ | rfl := hmay
    · exact .nowhere Draft.noConfusion
    · exact .nowhere Draft.noConfusion
    · cases reply with
      | error e => exact .nowhere Draft.noConfusion
      | ok m => exact goes_sent rfl (hhears m rfl)
  | made chat =>
    obtain rfl := hmay
    cases reply with
    | error e => exact .idle rfl (fun _ => trivial) Draft.noConfusion (.inl rfl)
    | ok m => exact goes_sent rfl (hhears m rfl)
  | spoiled chat =>
    obtain rfl := hmay
    rcases reply with _ | _ | _
    · exact .idle rfl (fun _ => trivial) Draft.noConfusion (.inr rfl)
    · exact .idle rfl (fun _ => trivial) Draft.noConfusion (.inr rfl)
    · refine ⟨rfl, fun x hx => ?_, fun _ => trivial, Draft.noConfusion, .given fun other h => ?_⟩
      · cases hx
        rfl
      · cases h
        rfl
  | sent m =>
    obtain ⟨r, rfl⟩ | ⟨r, rfl⟩ | rfl := hmay
    · exact .nowhere Draft.noConfusion
    · exact .nowhere Draft.noConfusion
    · cases reply with
      | error e => exact .nowhere Draft.noConfusion
      | ok held =>
        obtain ⟨hchat, hsender, hcontent⟩ := hhears held rfl
        refine ⟨rfl, fun x hx => ?_, fun hm => ⟨hm, hsender, hcontent, hchat⟩, Draft.noConfusion,
          .given fun _ h => (by cases h)⟩
        cases hx
        rfl
  | held => exact hmay.elim

/-- A chat that is there was found by the first call, or before. -/
lemma drafting_found {c : Call} {reply : c.Reply} {chat : Id} (hmay : (drafting s id).may d c)
    (h : (drafting s id).next d c reply = .found chat) :
    (d = .found chat ∧ Asked.event? ⟨c, reply⟩ = none) ∨ d = .fresh ∧ ∃ other found,
      (⟨c, reply⟩ : Asked) = ⟨.chats (.get other), .ok (some found)⟩ ∧ found.id = chat := by
  cases d with
  | fresh =>
    cases id with
    | none =>
      obtain rfl := hmay
      cases reply <;> cases h
    | some id =>
      obtain rfl := hmay
      rcases reply with _ | _ | found <;> cases h
      exact .inr ⟨rfl, id, found, rfl, rfl⟩
  | stopped => exact hmay.elim
  | chatless =>
    obtain ⟨a, rfl⟩ | rfl | ⟨chat, -, rfl⟩ := hmay
    · cases h
    · cases h
    · cases reply <;> cases h
  | found other =>
    obtain rfl | ⟨a, rfl⟩ | rfl := hmay
    · exact .inl ⟨h, rfl⟩
    · exact .inl ⟨h, rfl⟩
    · cases reply <;> cases h
      exact .inl ⟨rfl, rfl⟩
  | made other =>
    obtain rfl := hmay
    cases reply <;> cases h
  | spoiled other => cases h
  | sent m =>
    obtain ⟨r, rfl⟩ | ⟨r, rfl⟩ | rfl := hmay
    · cases h
    · cases h
    · cases reply <;> cases h
  | held => exact hmay.elim

end Sending

end Parley
