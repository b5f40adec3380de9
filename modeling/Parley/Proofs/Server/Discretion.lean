import Parley.Proofs.Server.Serving
import Parley.Proofs.Task.Likeness

/-!
# What handlers make of errors

No handler looks at an error, it only knows that there was one: told alike, it makes the same calls
and comes to the same refusal, or to responses that differ in the faults still to come in a stream
at most (`respond_like`).
-/

namespace Parley

inductive Body.Like : Body → Body → Prop
  | bytes (chunks : List Reply.Bytes) : Like (.bytes chunks) (.bytes chunks)
  | reply (relay : Relay) {s s' : Stream} (h : s.Like s') : Like (.reply relay s) (.reply relay s')

lemma Body.Like.refl : (b : Body) → b.Like b
  | .bytes chunks => .bytes chunks
  | .reply relay s => .reply relay (.refl s)

/-- The same response, up to the faults in a stream that is still to be relayed. -/
structure Http.Response.Like (r r' : Http.Response) : Prop where
  status : r'.status = r.status
  headers : r'.headers = r.headers
  body : r.body.Like r'.body

lemma Http.Response.Like.refl (r : Http.Response) : r.Like r := ⟨rfl, rfl, .refl r.body⟩

namespace Handler

variable {α β : Type} {R : α → α → Prop} {S : β → β → Prop} {h h' : Handler α}

/-- The same refusal, or results that are related. -/
inductive Ends (R : α → α → Prop) : Except Refusal α → Except Refusal α → Prop
  | refused (r : Refusal) : Ends R (.error r) (.error r)
  | done {a a' : α} (h : R a a') : Ends R (.ok a) (.ok a')

def Like (R : α → α → Prop) (h h' : Handler α) : Prop := Task.Like (Ends R) h.run h'.run

/-- Told alike, a handler comes to one result. -/
def Discreet (h : Handler α) : Prop := Like Eq h h

lemma like_pure {a a' : α} (h : R a a') : Like R (pure a) (pure a') := .done (.done h)

lemma like_refuse (r : Refusal) : Like R (refuse r) (refuse r) := .done (.refused r)

theorem Like.bind {f f' : α → Handler β} (hh : Like R h h')
    (hf : ∀ a a', R a a' → Like S (f a) (f' a')) : Like S (h >>= f) (h' >>= f') := by
  refine Task.Like.bind (R := Ends R) hh fun out out' hout => ?_
  cases hout with
  | refused r => exact .done (.refused r)
  | done ha => exact hf _ _ ha

theorem Discreet.bind {f f' : α → Handler β} (hh : Discreet h)
    (hf : ∀ a, Like S (f a) (f' a)) : Like S (h >>= f) (h >>= f') := by
  refine Like.bind hh fun a a' ha => ?_
  cases ha
  exact hf a

lemma like_lift {t t' : Task α} (ht : Task.Like R t t') :
    Like R (liftM t : Handler α) (liftM t') :=
  Task.Like.bind (S := Ends R) ht fun _ _ ha => .done (.done ha)

lemma discreet_chats (c : ChatCall) (message : String) : Discreet (chats c message) := by
  refine Like.bind (like_lift (Task.like_call (.chats c))) fun reply reply' hreply => ?_
  cases hreply with
  | failed e e' => exact like_refuse _
  | done h => exact like_pure h

lemma discreet_agents (c : AgentCall) (message : String) : Discreet (agents c message) := by
  refine Like.bind (like_lift (Task.like_call (.agents c))) fun reply reply' hreply => ?_
  cases hreply with
  | failed e e' => exact like_refuse _
  | done h => exact like_pure h

lemma discreet_stamp : Discreet stamp := like_lift (Task.like_call .stamp)

lemma discreet_orAbsent (found : Option α) (kind : String) (id : Id) :
    Discreet (orAbsent found kind id) := by
  cases found with
  | none => exact like_refuse _
  | some a => exact like_pure rfl

lemma discreet_ofExcept (x : Except Refusal α) : Discreet (ofExcept x) := by
  cases x with
  | error r => exact like_refuse r
  | ok a => exact like_pure rfl

end Handler

open Handler

/-- A handler whose responses do not depend on errors. -/
def Handler.Civil (h : Handler Http.Response) : Prop := Handler.Like Http.Response.Like h h

lemma Handler.civil_bytes {status : Nat} {headers : List (String × String)}
    {chunks : List Reply.Bytes} : Handler.Civil (pure ⟨status, headers, .bytes chunks⟩) :=
  like_pure ⟨rfl, rfl, .bytes chunks⟩

/-- A run stops at the same place, and keeps what it has up to there. -/
lemma Plan.run_like (plan : Plan) (c : Context) : Task.Like
    (fun out out' => out.1 = out'.1 ∧ Agree Stream.Like out.2 out'.2) (plan.run c)
    (plan.run c) := by
  have hprepare (gated : List GatedPrompt) (c : Context) : Task.Like
      (fun out out' => out.1 = out'.1 ∧ Agree Eq out.2 out'.2) (prepare gated c)
      (prepare gated c) := by
    induction gated generalizing c with
    | nil => exact .done ⟨rfl, .done rfl⟩
    | cons g rest ih =>
      rw [prepare]
      split
      · refine (Task.like_call (.invoke _)).bind fun reply reply' hreply => ?_
        cases hreply with
        | failed e e' => exact .done ⟨rfl, .failed e e'⟩
        | done h => exact h ▸ ih _
      · exact ih _
  refine (hprepare plan.gated c).bind ?_
  rintro ⟨c₁, out⟩ ⟨_, out'⟩ ⟨rfl, hout⟩
  cases hout with
  | failed e e' => exact .done ⟨rfl, .failed e e'⟩
  | done => exact (Task.like_call (.openStream _)).bind fun _ _ hreply => .done ⟨rfl, hreply⟩

namespace Sending

lemma chatFor_discreet (id : Option Id) : (chatFor id).Discreet := by
  cases id with
  | none => exact like_pure rfl
  | some id =>
    refine (discreet_chats _ _).bind fun found => ?_
    exact (discreet_orAbsent found _ id).bind fun _ => like_pure rfl

lemma planFor_discreet (agent : Option Id) (prompt : String) :
    (planFor agent prompt).Discreet := by
  cases agent with
  | none => exact like_pure rfl
  | some id =>
    refine (discreet_agents _ _).bind fun found => ?_
    refine (discreet_orAbsent found _ id).bind fun agent => ?_
    cases Plan.ofAgent agent with
    | error fault => exact like_refuse _
    | ok plan => exact like_pure rfl

lemma saveIn_discreet (s : Sending) (chat : Chat) : (s.saveIn chat).Discreet :=
  (discreet_chats _ _).bind fun _ => like_pure rfl

lemma saveInNew_discreet (s : Sending) (agent : Option Id) : (s.saveInNew agent).Discreet := by
  refine discreet_stamp.bind fun stamp => (discreet_chats _ _).bind fun chat => ?_
  refine Like.bind (like_lift (Task.like_call (.chats _))) fun reply reply' hreply => ?_
  cases hreply with
  | failed e e' =>
    exact Like.bind (like_lift (Task.like_call (.chats _))) fun _ _ _ => like_refuse _
  | done h => exact h ▸ like_pure rfl

lemma answer_like (plan : Plan) (c : Context) :
    (answer plan c).Like Stream.Like (answer plan c) := by
  refine Like.bind (like_lift (plan.run_like c)) ?_
  rintro ⟨c₁, out⟩ ⟨_, out'⟩ ⟨rfl, hout⟩
  cases hout with
  | failed e e' => exact like_refuse _
  | done h => exact like_pure h

lemma holdPlace_discreet (turn : Turn) : (holdPlace turn).Discreet := by
  refine (discreet_chats _ _).bind fun reply => ?_
  cases turn.placeholderCreated reply.id with
  | error e => exact like_refuse _
  | ok turn => exact like_pure rfl

lemma body_like (turn : Turn) {s s' : Stream} (h : s.Like s') :
    (Body.ofTurn turn s).Like (Body.ofTurn turn s') := by
  unfold Body.ofTurn
  cases Relay.ofTurn? turn with
  | none => exact .bytes _
  | some relay => exact .reply relay h

lemma send_civil (default : String) (id : Option Id) (s : Sending) :
    (s.send default id).Civil := by
  have hreply (plan : Plan) (c : Context) (turn : Turn) : Handler.Civil (do
      let stream ← answer plan c
      let held ← holdPlace turn
      return response held.1 held.2 stream) := by
    refine (answer_like plan c).bind fun s s' hs => ?_
    exact (holdPlace_discreet turn).bind fun held =>
      like_pure ⟨rfl, rfl, body_like held.2 hs⟩
  refine (chatFor_discreet id).bind fun chat => (discreet_chats _ _).bind fun shared => ?_
  refine (planFor_discreet _ _).bind fun plan => ?_
  cases chat with
  | none => exact (saveInNew_discreet s _).bind fun turn => hreply plan _ turn
  | some chat => exact (saveIn_discreet s chat).bind fun turn => hreply plan _ turn

end Sending

namespace Endpoint

lemma postMessage_civil (default : String) (part : Option (List Char)) (request : Http.Request) :
    (postMessage default part request).Civil :=
  (discreet_ofExcept _).bind fun id => (discreet_ofExcept _).bind fun _ =>
    (discreet_ofExcept _).bind fun s => s.send_civil default id

lemma showChats_civil (c : ChatCall) (message : String) : (showChats c message).Civil :=
  (discreet_chats c message).bind fun _ => civil_bytes

lemma showAgents_civil (status : Nat) (c : AgentCall) (message : String) :
    (showAgents status c message).Civil := (discreet_agents c message).bind fun _ => civil_bytes

lemma getChat_civil (part : List Char) : (getChat part).Civil :=
  (discreet_ofExcept _).bind fun id => (discreet_chats _ _).bind fun found =>
    (discreet_orAbsent found _ id).bind fun _ => civil_bytes

lemma deleteChat_civil (part : List Char) : (deleteChat part).Civil := by
  refine (discreet_ofExcept _).bind fun id => (discreet_chats _ _).bind fun found => ?_
  cases found with
  | false => exact like_refuse _
  | true => exact civil_bytes

lemma putSettings_civil (request : Http.Request) : (putSettings request).Civil :=
  (discreet_ofExcept _).bind fun _ => showChats_civil _ _

lemma agent_discreet (payload : AgentPayload) : payload.agent.Discreet := by
  rw [AgentPayload.agent]
  split
  · exact like_refuse _
  · refine discreet_stamp.bind fun stamp => ?_
    dsimp only
    split
    · exact like_pure rfl
    · exact like_refuse _

lemma getAgent_civil (part : List Char) : (getAgent part).Civil :=
  (discreet_ofExcept _).bind fun id => (discreet_agents _ _).bind fun found =>
    (discreet_orAbsent found _ id).bind fun _ => civil_bytes

lemma createAgent_civil (payload : AgentPayload) : (createAgent payload).Civil :=
  (agent_discreet payload).bind fun _ => showAgents_civil _ _ _

lemma replaceAgent_civil (id : Id) (payload : AgentPayload) : (replaceAgent id payload).Civil :=
  (discreet_agents _ _).bind fun found => (discreet_orAbsent found _ id).bind fun _ =>
    (agent_discreet payload).bind fun _ => showAgents_civil _ _ _

lemma deleteAgent_civil (part : List Char) : (deleteAgent part).Civil := by
  refine (discreet_ofExcept _).bind fun id => (discreet_agents _ _).bind fun found => ?_
  cases found with
  | false => exact like_refuse _
  | true => exact civil_bytes

lemma withPayload_civil {sent : Except Refusal (Stamped AgentPayload)}
    {f : AgentPayload → Handler Http.Response} (hf : ∀ payload, (f payload).Civil)
    (stamps : Stamps) : (((withPayload sent f).run stamps).1).Civil := by
  cases sent with
  | error r => exact like_refuse r
  | ok payload => exact hf _

end Endpoint

theorem Route.endpoints_civil {default : String} {request : Http.Request} {route : Route}
    {verb : Verb} {endpoint : Stamped (Handler Http.Response)}
    (h : (verb, endpoint) ∈ route.endpoints default request) (stamps : Stamps) :
    ((endpoint.run stamps).1).Civil := by
  cases route <;> simp only [endpoints, List.mem_cons, List.not_mem_nil, or_false,
    Prod.mk.injEq] at h
  case health =>
    obtain ⟨-, rfl⟩ := h
    exact civil_bytes
  case newChat =>
    obtain ⟨-, rfl⟩ := h
    exact Endpoint.postMessage_civil default none request
  case chat part =>
    obtain ⟨-, rfl⟩ | ⟨-, rfl⟩ | ⟨-, rfl⟩ := h
    · exact Endpoint.getChat_civil part
    · exact Endpoint.postMessage_civil default (some part) request
    · exact Endpoint.deleteChat_civil part
  case chats =>
    obtain ⟨-, rfl⟩ := h
    exact Endpoint.showChats_civil _ _
  case agents =>
    obtain ⟨-, rfl⟩ | ⟨-, rfl⟩ := h
    · exact Endpoint.showAgents_civil _ _ _
    · exact Endpoint.withPayload_civil Endpoint.createAgent_civil stamps
  case agent part =>
    obtain ⟨-, rfl⟩ | ⟨-, rfl⟩ | ⟨-, rfl⟩ := h
    · exact Endpoint.getAgent_civil part
    · unfold Endpoint.putAgent
      cases pathId part with
      | error r => exact like_refuse r
      | ok id => exact Endpoint.withPayload_civil (Endpoint.replaceAgent_civil id) stamps
    · exact Endpoint.deleteAgent_civil part
  case settings =>
    obtain ⟨-, rfl⟩ | ⟨-, rfl⟩ := h
    · exact Endpoint.showChats_civil _ _
    · exact Endpoint.putSettings_civil request

lemma complete_like {request : Http.Request} {h : Handler Http.Response} (hh : h.Civil) :
    Task.Like Http.Response.Like (complete request h) (complete request h) := by
  have hrespond : Task.Like Http.Response.Like h.respond h.respond := by
    refine Task.Like.bind hh fun out out' hout => ?_
    cases hout with
    | refused r => exact .done (.refl _)
    | done h => exact .done h
  refine hrespond.bind fun r r' hr => .done ?_
  unfold withoutBodyFor openToAll
  split
  · exact ⟨hr.status, congrArg (· ++ _) hr.headers, .bytes []⟩
  · exact ⟨hr.status, congrArg (· ++ _) hr.headers, hr.body⟩

/-- Whatever is asked, errors do not show in the response to it. -/
theorem respond_like (default : String) (request : Http.Request) (stamps : Stamps) :
    Task.Like Http.Response.Like ((respond default request).run stamps).1
      ((respond default request).run stamps).1 := by
  obtain ⟨response, -, heq⟩ | ⟨route, verb, endpoint, -, hmem, -, heq⟩ :=
    respond_cases default request stamps
  · rw [heq]
    exact .done (.refl response)
  · rw [heq]
    exact complete_like (Route.endpoints_civil hmem stamps)

end Parley
