import Parley.Proofs.Agent.Saved
import Parley.Proofs.Server.Posting
import Parley.Proofs.Server.Protocol
import Parley.Server.Router

/-!
# What requests do to the agents

The work for a request makes at most one call that changes the agents, and only with a sound agent.
If that call takes effect then the request succeeds, and it does nothing more (`staffing`,
`Staffs`).
-/

namespace Parley

open Handler

/-- The refusal to run an agent that cannot be run. -/
def Refusal.badAgent : Refusal := .internal "Agent definition is invalid"

/-- The agents are changed by one call at the end, if at all. Times are proper ones, and agents that
are found are sound. The state is the call that took effect. -/
def staffing : Protocol (Option AgentCall) where
  may
    | none, .agents c => ∀ stamp : Stamp, stamp.time.Proper → c.Brings stamp
    | none, _ => True
    | some _, _ => False
  hears
    | _, .stamp, (stamp : Stamp) => stamp.time.Proper
    | _, .agents (.get _), reply => ∀ a, reply = .ok (some a) → a.Sound
    | _, _, _ => True
  next
    | s, .agents c, reply => if c.tookEffect reply then some c else s
    | s, _, _ => s

/-- Requests to this route are about agents. -/
def Route.isAgents : Route → Bool
  | .agents => true
  | .agent _ => true
  | _ => false

/-- What the work for a request comes to, with the call that took effect on the agents. -/
inductive Staffs (route : Route) (verb : Verb) :
    Option AgentCall → Except Refusal Http.Response → Prop
  | refused {r : Refusal} (h : r ≠ .badAgent) : Staffs route verb none (.error r)
  | unconcerned {r : Http.Response} (hstatus : r.status ≠ 500)
    (h : route.isAgents = false ∨ verb = .get) : Staffs route verb none (.ok r)
  | created {a : Agent} {r : Http.Response} (hroute : route = .agents) (hverb : verb = .post)
    (hstatus : r.status = 201) : Staffs route verb (some (.create a)) (.ok r)
  | replaced {part : List Char} {a : Agent} {r : Http.Response} (hroute : route = .agent part)
    (hverb : verb = .put) (hid : pathId part = .ok a.id) (hstatus : r.status = 200) :
    Staffs route verb (some (.update a)) (.ok r)
  | deleted {part : List Char} {id : Id} {r : Http.Response} (hroute : route = .agent part)
    (hverb : verb = .delete) (hid : pathId part = .ok id) (hstatus : r.status = 204) :
    Staffs route verb (some (.delete id)) (.ok r)

/-- Nothing was done to the agents, and no agent was found that cannot be run. -/
def Unstaffed {α : Type} (event : Option AgentCall) (out : Except Refusal α) : Prop :=
  event = none ∧ ∀ r, out = .error r → r ≠ .badAgent

variable {α β : Type} {route : Route} {verb : Verb}

lemma unstaffed_ok (a : α) : Unstaffed none (.ok a) := ⟨rfl, nofun⟩

lemma unstaffed_internal {message : String} (h : message ≠ "Agent definition is invalid") :
    Unstaffed none (.error (.internal message) : Except Refusal α) := by
  refine ⟨rfl, fun r hr => ?_⟩
  cases hr
  simpa [Refusal.badAgent] using h

lemma keeps_bind_of_unstaffed {h : Handler α} {f : α → Handler β}
    {ends : Option AgentCall → Except Refusal β → Prop} (hh : h.Keeps staffing Unstaffed none)
    (hf : ∀ a, (f a).Keeps staffing ends none) (hrefused : ∀ r ≠ .badAgent, ends none (.error r)) :
    (h >>= f).Keeps staffing ends none := by
  refine keeps_bind_iff.2 (hh.mono ?_)
  rintro _ (r | a) ⟨rfl, hr⟩
  · exact hrefused r (hr r rfl)
  · exact hf a

lemma Unstaffed.bind {h : Handler α} {f : α → Handler β} (hh : h.Keeps staffing Unstaffed none)
    (hf : ∀ a, (f a).Keeps staffing Unstaffed none) : (h >>= f).Keeps staffing Unstaffed none :=
  keeps_bind_of_unstaffed hh hf fun _ hr => ⟨rfl, by rintro _ ⟨⟩; exact hr⟩

lemma Staffs.bind {h : Handler α} {f : α → Handler Http.Response}
    (hh : h.Keeps staffing Unstaffed none)
    (hf : ∀ a, (f a).Keeps staffing (Staffs route verb) none) :
    (h >>= f).Keeps staffing (Staffs route verb) none :=
  keeps_bind_of_unstaffed hh hf fun _ hr => .refused hr

/-- A call for the chats makes no difference to the agents. -/
lemma Unstaffed.chats {c : ChatCall} {message : String}
    (h : message ≠ "Agent definition is invalid") :
    (Handler.chats c message).Keeps staffing Unstaffed none := by
  refine keeps_chats_iff.2 ⟨trivial, fun reply _ => ?_⟩
  cases reply with
  | error e => exact unstaffed_internal h
  | ok reply => exact unstaffed_ok reply

/-- Agents that are looked for are sound. -/
lemma Unstaffed.found {id : Id} {message : String} (h : message ≠ "Agent definition is invalid") :
    (Handler.agents (.get id) message).Keeps staffing
      (fun event out => Unstaffed event out ∧ ∀ a, out = .ok (some a) → a.Sound) none := by
  refine keeps_agents_iff.2 ⟨fun _ hstamp => ⟨hstamp, by simp⟩, fun reply hreply => ?_⟩
  cases reply with
  | error e => exact ⟨unstaffed_internal h, nofun⟩
  | ok found =>
    refine ⟨unstaffed_ok found, fun a ha => hreply a ?_⟩
    cases ha
    rfl

lemma Unstaffed.orAbsent (found : Option α) {kind : String} {id : Id} :
    (orAbsent found kind id).Keeps staffing Unstaffed none := by
  refine keeps_orAbsent_iff.2 ⟨by cases found <;> rfl, ?_⟩
  cases found <;> rintro r ⟨⟩
  simp [Refusal.badAgent]

/-- What is wrong with a request is not that an agent cannot be run. -/
lemma Unstaffed.ofExcept {x : Except Refusal α}
    (h : ∀ r, x = .error r → ∀ message, r ≠ .internal message) :
    (ofExcept x).Keeps staffing Unstaffed none :=
  keeps_ofExcept_iff.2 ⟨rfl, fun r hr => h r hr _⟩

namespace Sending

lemma chatFor_unstaffed (id : Option Id) : (chatFor id).Keeps staffing Unstaffed none := by
  cases id with
  | none => exact unstaffed_ok _
  | some id =>
    refine Unstaffed.bind (Unstaffed.chats (by decide)) fun found => ?_
    exact Unstaffed.bind (Unstaffed.orAbsent found) fun _ => unstaffed_ok _

lemma planFor_unstaffed (agent : Option Id) (prompt : String) :
    (planFor agent prompt).Keeps staffing Unstaffed none := by
  cases agent with
  | none => exact unstaffed_ok _
  | some id =>
    refine keeps_bind_iff.2 ((Unstaffed.found (by decide)).mono ?_)
    rintro _ (r | found) ⟨⟨rfl, hr⟩, hsound⟩
    · exact ⟨rfl, by rintro _ ⟨⟩; exact hr r rfl⟩
    cases found with
    | none => exact ⟨rfl, by rintro _ ⟨⟩; simp [Refusal.badAgent]⟩
    | some a =>
      obtain ⟨plan, hplan⟩ := (hsound a rfl).plan
      refine keeps_bind_iff.2 ?_
      refine keeps_orAbsent_iff.2 ?_
      simp only [Option.elim, andThen, hplan]
      exact unstaffed_ok plan

lemma saveIn_unstaffed (s : Sending) (chat : Chat) :
    (s.saveIn chat).Keeps staffing Unstaffed none :=
  Unstaffed.bind (Unstaffed.chats (by decide)) fun _ => unstaffed_ok _

lemma saveInNew_unstaffed (s : Sending) (agent : Option Id) :
    (s.saveInNew agent).Keeps staffing Unstaffed none := by
  refine Unstaffed.bind (keeps_stamp_iff.2 ⟨trivial, fun _ _ => unstaffed_ok _⟩) fun stamp => ?_
  refine Unstaffed.bind (Unstaffed.chats (by decide)) fun chat => ?_
  refine keeps_call_bind_iff.2 ⟨trivial, fun reply _ => ?_⟩
  cases reply with
  | ok sent => exact unstaffed_ok _
  | error e => exact keeps_call_bind_iff.2 ⟨trivial, fun _ _ => unstaffed_internal (by decide)⟩

lemma answer_unstaffed (plan : Plan) (c : Context) :
    (answer plan c).Keeps staffing Unstaffed none := by
  refine keeps_bind_iff.2 (keeps_lift_iff.2 ?_)
  refine Plan.keeps_run (fun _ => ⟨trivial, fun _ => rfl⟩) (fun _ => ⟨trivial, fun _ => rfl⟩) ?_
  rintro ⟨c', e | stream⟩
  · exact unstaffed_internal (by decide)
  · exact unstaffed_ok stream

lemma holdPlace_unstaffed (turn : Turn) : (holdPlace turn).Keeps staffing Unstaffed none := by
  refine Unstaffed.bind (Unstaffed.chats (by decide)) fun reply => ?_
  cases turn.placeholderCreated reply.id with
  | ok turn => exact unstaffed_ok _
  | error e => exact unstaffed_internal (by decide)

lemma send_staffs (default : String) (id : Option Id) (s : Sending)
    (hroute : route.isAgents = false) :
    (s.send default id).Keeps staffing (Staffs route verb) none := by
  have hreply (plan : Plan) (c : Context) (turn : Turn) : Keeps staffing (Staffs route verb) none
      (do
        let stream ← answer plan c
        let held ← holdPlace turn
        return response held.1 held.2 stream) := by
    refine Staffs.bind (answer_unstaffed plan c) fun stream => ?_
    refine Staffs.bind (holdPlace_unstaffed turn) fun held => ?_
    exact .unconcerned (by decide : (200 : Nat) ≠ 500) (.inl hroute)
  refine Staffs.bind (chatFor_unstaffed id) fun chat => ?_
  refine Staffs.bind (Unstaffed.chats (by decide)) fun shared => ?_
  refine Staffs.bind (planFor_unstaffed _ _) fun plan => ?_
  cases chat with
  | none => exact Staffs.bind (saveInNew_unstaffed s _) fun turn => hreply plan _ turn
  | some chat => exact Staffs.bind (saveIn_unstaffed s chat) fun turn => hreply plan _ turn

end Sending

namespace Endpoint

lemma health_staffs (hroute : route.isAgents = false) :
    health.Keeps staffing (Staffs route verb) none :=
  .unconcerned (by decide : (200 : Nat) ≠ 500) (.inl hroute)

lemma postMessage_staffs (default : String) (part : Option (List Char)) (request : Http.Request)
    (hroute : route.isAgents = false) :
    (postMessage default part request).Keeps staffing (Staffs route verb) none := by
  refine Staffs.bind (Unstaffed.ofExcept fun r hr message => partId_error hr ▸ nofun) fun id => ?_
  refine Staffs.bind (Unstaffed.ofExcept fun r hr => formOf_error hr) fun fields => ?_
  refine Staffs.bind (Unstaffed.ofExcept fun r hr message => ?_) fun s =>
    Sending.send_staffs default id s hroute
  obtain ⟨r', hr', hclient⟩ | ⟨s, hs, -⟩ := Sending.ofFields_cases fields
  · rw [hr'] at hr
    cases hr
    exact hclient message
  · rw [hs] at hr
    cases hr

lemma showChats_staffs {c : ChatCall} {message : String} (hroute : route.isAgents = false)
    (h : message ≠ "Agent definition is invalid") :
    (showChats c message).Keeps staffing (Staffs route verb) none :=
  Staffs.bind (Unstaffed.chats h) fun _ =>
    .unconcerned (by decide : (200 : Nat) ≠ 500) (.inl hroute)

lemma Unstaffed.pathId (part : List Char) :
    (ofExcept (pathId part)).Keeps staffing Unstaffed none :=
  Unstaffed.ofExcept fun _ hr _ => pathId_error hr ▸ nofun

lemma getChat_staffs (part : List Char) (hroute : route.isAgents = false) :
    (getChat part).Keeps staffing (Staffs route verb) none := by
  refine Staffs.bind (Unstaffed.pathId part) fun id => ?_
  refine Staffs.bind (Unstaffed.chats (by decide)) fun found => ?_
  refine Staffs.bind (Unstaffed.orAbsent found) fun chat => ?_
  exact .unconcerned (by decide : (200 : Nat) ≠ 500) (.inl hroute)

lemma deleteChat_staffs (part : List Char) (hroute : route.isAgents = false) :
    (deleteChat part).Keeps staffing (Staffs route verb) none := by
  refine Staffs.bind (Unstaffed.pathId part) fun id => ?_
  refine Staffs.bind (Unstaffed.chats (by decide)) fun found => ?_
  cases found with
  | true => exact .unconcerned (by decide : (204 : Nat) ≠ 500) (.inl hroute)
  | false => exact .refused (by simp [Refusal.badAgent])

lemma payloadOf_error {d : Json.Decoder α} {request : Http.Request} {r : Refusal}
    (h : payloadOf d request = .error r) (message : String) : r ≠ .internal message := by
  unfold payloadOf at h
  split_ifs at h
  · cases h
    nofun
  · cases h
    nofun
  · split at h <;> cases h <;> nofun

lemma putSettings_staffs (request : Http.Request) (hroute : route.isAgents = false) :
    (putSettings request).Keeps staffing (Staffs route verb) none :=
  Staffs.bind (Unstaffed.ofExcept fun _ hr => payloadOf_error hr) fun _ =>
    showChats_staffs hroute (by decide)

lemma listAgents_staffs : listAgents.Keeps staffing (Staffs route .get) none := by
  refine keeps_bind_iff.2 (keeps_agents_iff.2 ⟨fun _ hstamp => ⟨hstamp, by simp⟩, ?_⟩)
  rintro (e | agents) -
  · exact .refused (by simp [Refusal.badAgent])
  · exact .unconcerned (by decide : (200 : Nat) ≠ 500) (.inr rfl)

lemma getAgent_staffs (part : List Char) :
    (getAgent part).Keeps staffing (Staffs route .get) none := by
  refine Staffs.bind (Unstaffed.pathId part) fun id => ?_
  refine Staffs.bind ((Unstaffed.found (by decide)).mono fun _ _ h => h.1) fun found => ?_
  refine Staffs.bind (Unstaffed.orAbsent found) fun agent => ?_
  exact .unconcerned (by decide : (200 : Nat) ≠ 500) (.inr rfl)

/-- An agent that is made from what was sent is sound. -/
lemma AgentPayload.agent_sound (payload : AgentPayload) :
    payload.agent.Keeps staffing
      (fun event out => Unstaffed event out ∧ ∀ a, out = .ok a → a.Sound ∧ a.Timely) none := by
  rw [AgentPayload.agent]
  cases hname : Text.trimmed? payload.name with
  | none => exact ⟨⟨rfl, by rintro _ ⟨⟩; simp [Refusal.badAgent]⟩, nofun⟩
  | some name =>
    refine keeps_bind_iff.2 (keeps_stamp_iff.2 ⟨trivial, fun stamp hstamp => ?_⟩)
    dsimp only [andThen]
    split
    · next plan hplan =>
      refine ⟨unstaffed_ok _, ?_⟩
      rintro a ⟨⟩
      exact ⟨⟨⟨plan, hplan⟩, Text.trimmed?_trimmed hname⟩, hstamp, hstamp⟩
    · exact ⟨⟨rfl, by rintro _ ⟨⟩; simp [Refusal.badAgent]⟩, nofun⟩

lemma createAgent_staffs (payload : AgentPayload) :
    (createAgent payload).Keeps staffing (Staffs .agents .post) none := by
  refine keeps_bind_iff.2 (payload.agent_sound.mono ?_)
  rintro _ (r | agent) ⟨⟨rfl, hr⟩, hsound⟩
  · exact .refused (hr r rfl)
  obtain ⟨hagent, htimely⟩ := hsound agent rfl
  refine keeps_bind_iff.2 (keeps_agents_iff.2 ⟨fun stamp _ => ⟨htimely, ?_⟩, ?_⟩)
  · rintro a (⟨⟨⟩⟩ | ⟨⟨⟩⟩)
    exact hagent
  · rintro (e | made) -
    · exact .refused (by simp [Refusal.badAgent])
    · exact .created rfl rfl rfl

lemma replaceAgent_staffs {part : List Char} {id : Id} (hid : pathId part = .ok id)
    (payload : AgentPayload) :
    (replaceAgent id payload).Keeps staffing (Staffs (.agent part) .put) none := by
  refine Staffs.bind ((Unstaffed.found (by decide)).mono fun _ _ h => h.1) fun found => ?_
  refine Staffs.bind (Unstaffed.orAbsent found) fun _ => ?_
  refine keeps_bind_iff.2 (payload.agent_sound.mono ?_)
  rintro _ (r | agent) ⟨⟨rfl, hr⟩, hsound⟩
  · exact .refused (hr r rfl)
  refine keeps_bind_iff.2 (keeps_agents_iff.2 ⟨fun stamp hstamp => ⟨hstamp, ?_⟩, ?_⟩)
  · rintro a (⟨⟨⟩⟩ | ⟨⟨⟩⟩)
    exact (hsound agent rfl).1.of_eq rfl rfl
  · rintro (e | made) -
    · exact .refused (by simp [Refusal.badAgent])
    · exact .replaced rfl rfl hid rfl

lemma deleteAgent_staffs (part : List Char) :
    (deleteAgent part).Keeps staffing (Staffs (.agent part) .delete) none := by
  refine keeps_bind_iff.2 (keeps_ofExcept_iff.2 ?_)
  cases hid : pathId part with
  | error r => exact .refused (pathId_error hid ▸ nofun)
  | ok id =>
    refine keeps_bind_iff.2 (keeps_agents_iff.2 ⟨fun _ hstamp => ⟨hstamp, by simp⟩, ?_⟩)
    rintro (e | _ | _) -
    · exact .refused (by simp [Refusal.badAgent])
    · exact .refused (by simp [Refusal.badAgent])
    · exact .deleted rfl rfl hid rfl

/-- What is done with an agent that was sent is done with any agent that may have been sent. -/
lemma withPayload_staffs {sent : Except Refusal (Stamped AgentPayload)}
    {f : AgentPayload → Handler Http.Response}
    (hsent : ∀ r, sent = .error r → ∀ message, r ≠ .internal message)
    (hf : ∀ payload, (f payload).Keeps staffing (Staffs route verb) none) (stamps : Stamps) :
    (((withPayload sent f).run stamps).1).Keeps staffing (Staffs route verb) none := by
  cases sent with
  | error r => exact .refused (hsent r rfl _)
  | ok payload => exact hf _

end Endpoint

/-- The work for any request does to the agents what its route and verb say. -/
theorem Route.endpoints_staffs {default : String} {request : Http.Request}
    {endpoint : Stamped (Handler Http.Response)}
    (h : (verb, endpoint) ∈ route.endpoints default request) (stamps : Stamps) :
    ((endpoint.run stamps).1).Keeps staffing (Staffs route verb) none := by
  cases route with
  | health =>
    obtain ⟨rfl, rfl⟩ := Prod.mk.inj (List.mem_singleton.1 h)
    exact Endpoint.health_staffs rfl
  | newChat =>
    obtain ⟨rfl, rfl⟩ := Prod.mk.inj (List.mem_singleton.1 h)
    exact Endpoint.postMessage_staffs default none request rfl
  | chat part =>
    simp only [endpoints, List.mem_cons, List.not_mem_nil, or_false, Prod.mk.injEq] at h
    obtain ⟨rfl, rfl⟩ | ⟨rfl, rfl⟩ | ⟨rfl, rfl⟩ := h
    · exact Endpoint.getChat_staffs part rfl
    · exact Endpoint.postMessage_staffs default (some part) request rfl
    · exact Endpoint.deleteChat_staffs part rfl
  | chats =>
    obtain ⟨rfl, rfl⟩ := Prod.mk.inj (List.mem_singleton.1 h)
    exact Endpoint.showChats_staffs rfl (by decide)
  | agents =>
    simp only [endpoints, List.mem_cons, List.not_mem_nil, or_false, Prod.mk.injEq] at h
    obtain ⟨rfl, rfl⟩ | ⟨rfl, rfl⟩ := h
    · exact Endpoint.listAgents_staffs
    · exact Endpoint.withPayload_staffs (fun _ => Endpoint.payloadOf_error)
        Endpoint.createAgent_staffs stamps
  | agent part =>
    simp only [endpoints, List.mem_cons, List.not_mem_nil, or_false, Prod.mk.injEq] at h
    obtain ⟨rfl, rfl⟩ | ⟨rfl, rfl⟩ | ⟨rfl, rfl⟩ := h
    · exact Endpoint.getAgent_staffs part
    · unfold Endpoint.putAgent
      cases hid : pathId part with
      | error r => exact .refused (pathId_error hid ▸ nofun)
      | ok id =>
        exact Endpoint.withPayload_staffs (fun _ => Endpoint.payloadOf_error)
          (Endpoint.replaceAgent_staffs hid) stamps
    · exact Endpoint.deleteAgent_staffs part
  | settings =>
    simp only [endpoints, List.mem_cons, List.not_mem_nil, or_false, Prod.mk.injEq] at h
    obtain ⟨rfl, rfl⟩ | ⟨rfl, rfl⟩ := h
    · exact Endpoint.showChats_staffs rfl (by decide)
    · exact Endpoint.putSettings_staffs request rfl

end Parley
