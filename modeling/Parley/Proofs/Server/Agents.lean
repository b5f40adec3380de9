import Parley.Proofs.Agent.Stamped
import Parley.Proofs.Reply.Grammar
import Parley.Proofs.Server.Lapse
import Parley.Proofs.Server.Serving
import Parley.Proofs.Server.Staffing

/-!
# Agents over a whole run

However requests come and go, whatever fails and whenever the store is opened again, a store of
agents that began empty holds sound agents only (`World.Tended`). So no message is refused because
of an agent that cannot be run, and a request that does not succeed leaves the agents as they were
(`World.tended_agents`).
-/

namespace Parley

open Handler

lemma keeps_complete {σ : Type} {p : Protocol σ} {s : σ} {request : Http.Request}
    {h : Handler Http.Response} {ends : σ → Except Refusal Http.Response → Prop}
    (hh : h.Keeps p ends s) :
    (complete request h).Keeps p (fun s response => ∃ out, ends s out ∧
      response = withoutBodyFor request (openToAll (responseOf out))) s := by
  have hrespond : (Handler.respond h).Keeps p (fun s response => ∃ out, ends s out ∧
      response = responseOf out) s := by
    refine Task.keeps_bind_iff.2 (Task.Keeps.mono hh ?_)
    rintro s (r | response) hends
    · exact ⟨_, hends, rfl⟩
    · exact ⟨_, hends, rfl⟩
  refine Task.keeps_bind_iff.2 (hrespond.mono ?_)
  rintro s _ ⟨out, hends, rfl⟩
  exact ⟨out, hends, rfl⟩

/-- Different words make different bodies. -/
lemma Refusal.internal_body {message message' : String}
    (h : (internal message).response.body = (internal message').response.body) :
    message = message' := by
  have hcompact (text : String) : (errorJson text []).compact =
      String.ofList ("\x7b\"error\":".toList ++ (Json.quote text ++ ['\x7d'])) := rfl
  have hne (text : String) : (errorJson text []).compact ≠ "" := by
    rw [hcompact, ← String.toList_inj.ne]
    simp
  simp only [response, Http.Response.json, Body.ofText, if_neg (hne _)] at h
  have hbytes := Reply.ofString_injective (List.cons.inj (Body.bytes.inj h)).1
  rw [hcompact, hcompact, String.ofList_inj] at hbytes
  obtain ⟨cs, hcs, hread⟩ := Json.literal_quote message ['\x7d']
  obtain ⟨cs', hcs', hread'⟩ := Json.literal_quote message' ['\x7d']
  rw [List.append_cancel_left_eq, hcs, hcs', List.cons.injEq] at hbytes
  rw [hbytes.2, hread'] at hread
  cases hread
  rfl

lemma Refusal.not_badAgent {r : Refusal} (h : r ≠ .badAgent) :
    ¬(r.response.status = 500 ∧ r.response.body = Refusal.badAgent.response.body) := by
  rintro ⟨hstatus, hbody⟩
  cases r with
  | internal message => exact h (congrArg _ (Refusal.internal_body hbody))
  | _ => cases hstatus

lemma Refusal.le_status (r : Refusal) : 400 ≤ r.response.status := by
  cases r <;> simp [response, Http.Response.json, Http.Response.text]

/-- A response that blames an agent did so before it was completed. -/
lemma badAgent_of_complete {request : Http.Request} {r : Http.Response}
    (h : (withoutBodyFor request (openToAll r)).status = 500 ∧
      (withoutBodyFor request (openToAll r)).body = Refusal.badAgent.response.body) :
    r.status = 500 ∧ r.body = Refusal.badAgent.response.body := by
  rw [complete_status] at h
  unfold withoutBodyFor at h
  split_ifs at h
  · cases h.2
  · exact h

namespace Staffs

variable {route : Route} {verb : Verb} {event : Option AgentCall} {c : AgentCall}
  {part : List Char} {out : Except Refusal Http.Response}

lemma status (h : Staffs route verb (some c) out) : (responseOf out).status < 400 := by
  cases h with
  | created _ _ hstatus => exact Nat.lt_of_le_of_lt hstatus.le (by decide)
  | replaced _ _ _ hstatus => exact Nat.lt_of_le_of_lt hstatus.le (by decide)
  | deleted _ _ _ hstatus => exact Nat.lt_of_le_of_lt hstatus.le (by decide)

lemma runnable (h : Staffs route verb event out) :
    ¬((responseOf out).status = 500 ∧ (responseOf out).body = Refusal.badAgent.response.body) := by
  cases h with
  | refused h => exact Refusal.not_badAgent h
  | unconcerned hstatus => exact fun h => hstatus h.1
  | created _ _ hstatus => exact fun h => absurd (hstatus.symm.trans h.1) (by decide)
  | replaced _ _ _ hstatus => exact fun h => absurd (hstatus.symm.trans h.1) (by decide)
  | deleted _ _ _ hstatus => exact fun h => absurd (hstatus.symm.trans h.1) (by decide)

/-- Where agents are put, they are replaced or nothing is done to them. -/
lemma put (h : Staffs route .put (some c) out) :
    ∃ part a, route = .agent part ∧ pathId part = .ok a.id ∧ c = .update a := by
  cases h with
  | replaced hroute _ hid => exact ⟨_, _, hroute, hid, rfl⟩
  | created _ hverb => cases hverb
  | deleted _ hverb => cases hverb

lemma put_failed (h : Staffs (.agent part) .put none out) : 400 ≤ (responseOf out).status := by
  cases h with
  | @refused r => exact r.le_status
  | unconcerned _ h => obtain ⟨⟨⟩⟩ | ⟨⟨⟩⟩ := h

end Staffs

namespace World

/-- A change of the world that leaves the agents as they were. -/
structure Aside (w w' : World) : Prop where
  agents : w'.agents = w.agents
  nth : w'.stamps.nth = w.stamps.nth

variable {w w₀ w₁ w' : World}

lemma Aside.refl (w : World) : w.Aside w := ⟨rfl, rfl⟩

lemma Aside.trans (h : w.Aside w₁) (h' : w₁.Aside w') : w.Aside w' :=
  ⟨h'.agents.trans h.agents, h'.nth.trans h.nth⟩

lemma tidyAll_aside (w : World) (cs : List Cleanup) : w.Aside (cs.foldl tidy w) := by
  induction cs generalizing w with
  | nil => exact .refl w
  | cons c cs ih =>
    refine Aside.trans ?_ (ih (w.tidy c))
    unfold tidy
    split
    · exact .refl w
    · exact ⟨rfl, rfl⟩

lemma advance_aside (w : World) (t : Nat) : w.Aside (w.advance t) := by
  have hset : w.Aside (w.setClock t) := ⟨rfl, rfl⟩
  exact hset.trans (tidyAll_aside ..)

lemma begin_aside (w : World) (m : Method) : w.Aside (w.begin m).2 := ⟨rfl, rfl⟩

lemma wait_aside {t : Nat} {done : Bool} (h : w.wait t = (done, w')) : w.Aside w' := by
  unfold wait at h
  split at h
  · split_ifs at h <;> cases h <;> exact advance_aside w _
  · cases h
    exact advance_aside w t

lemma askChats_aside {c : ChatCall} {reply : Option (Except StoreError c.Reply)}
    (h : w.askChats c = (reply, w')) : w.Aside w' := by
  obtain ⟨t, done, w₁, hwait, ⟨-, -, rfl⟩ | ⟨r, -, -, hreply⟩⟩ := askChats_steps h
  · exact (begin_aside ..).trans (wait_aside hwait)
  · refine (begin_aside ..).trans ((wait_aside hwait).trans ?_)
    obtain ⟨_, -, -, rfl⟩ | ⟨_, -, -, -, rfl⟩ | hperform := chatReply_cases hreply
    · exact .refl _
    · exact .refl _
    · cases hperform
      exact ⟨rfl, rfl⟩

lemma attend_aside {α : Type} {d : Delayed (Except RunError α)} {deadline limit : Nat}
    {reply : Option (Except RunError α)} (h : w.attend d deadline limit = (reply, w')) :
    w.Aside w' := by
  unfold attend at h
  dsimp only at h
  generalize hwait : w.wait _ = found at h
  obtain ⟨done, w₁⟩ := found
  refine (wait_aside hwait).trans ?_
  cases done with
  | false =>
    cases h
    exact .refl _
  | true =>
    dsimp only at h
    split at h <;> cases h <;> exact ⟨rfl, rfl⟩

lemma askModel_aside {r : Request} {reply : Option (Except RunError String)}
    (h : w.askModel r = (reply, w')) : w.Aside w' := by
  have hasking : w.Aside (w.invoking r (w.model.answer w.answered r)) := ⟨rfl, rfl⟩
  exact hasking.trans (attend_aside h)

lemma askStream_aside {r : Request} {reply : Option (Except RunError Stream)}
    (h : w.askStream r = (reply, w')) : w.Aside w' := by
  unfold askStream at h
  dsimp only at h
  split at h
  · cases h
    exact .refl _
  · generalize hattend : attend _ _ _ _ = found at h
    obtain ⟨opened, w₁⟩ := found
    obtain ⟨-, rfl⟩ := Prod.mk.inj h
    have hattended := attend_aside hattend
    exact ⟨hattended.agents, hattended.nth⟩

/-- A call for the agents is broken off, or something goes wrong with it, or it is carried out. -/
lemma askAgents_cases {c : AgentCall} {reply : Option (Except StoreError c.Reply)}
    (h : w.askAgents c = (reply, w')) :
    (reply = none ∧ w.Aside w') ∨
    (∃ r, reply = some r ∧ ((∃ e, r = .error e) ∨ ∃ a, c.absent? = some a ∧ r = .ok a) ∧
      w.Aside w') ∨
    ∃ r w₁, reply = some r ∧ w.Aside w₁ ∧ w₁.performAgent c = (r, w') := by
  unfold askAgents at h
  dsimp only at h
  generalize hwait : (w.begin c.method).2.wait _ = found at h
  obtain ⟨done, w₁⟩ := found
  have hwaited : w.Aside w₁ := (begin_aside ..).trans (wait_aside hwait)
  cases done with
  | false =>
    cases h
    exact .inl ⟨rfl, hwaited⟩
  | true =>
    obtain ⟨rfl, rfl⟩ := Prod.mk.inj h
    refine .inr ?_
    rcases (w.begin c.method).1 with _ | e | _
    · exact .inr ⟨_, w₁, rfl, hwaited, rfl⟩
    · exact .inl ⟨_, rfl, .inl ⟨e, rfl⟩, hwaited⟩
    · cases hmissed : c.absent? with
      | none =>
        refine .inr ⟨_, w₁, rfl, hwaited, ?_⟩
        simp only [agentReply, hmissed]
      | some a =>
        refine .inl ⟨.ok a, ?_, .inr ⟨a, rfl, rfl⟩, ?_⟩
        · simp only [agentReply, hmissed]
        · simpa only [agentReply, hmissed] using hwaited

/-- The world while a request is worked on, by the call that took effect on the agents so far. -/
structure Staffed (w₀ : World) (event : Option AgentCall) (w : World) : Prop where
  proper : ∀ n, (w.stamps.nth n).time.Proper
  sound : w.agents.Sound
  unchanged : event = none → w.agents = w₀.agents
  changed : ∀ c, event = some c → ∃ stamp, w₀.agents.memory.After stamp c w.agents.memory

lemma Staffed.aside {event : Option AgentCall} (h : w₀.Staffed event w) (haside : w.Aside w') :
    w₀.Staffed event w' where
  proper := haside.nth ▸ h.proper
  sound := haside.agents ▸ h.sound
  unchanged := haside.agents ▸ h.unchanged
  changed := haside.agents ▸ h.changed

/-- A call for the agents that is carried out. -/
lemma Staffed.perform {c : AgentCall} {r : Except StoreError c.Reply} (h : w₀.Staffed none w)
    (hmay : staffing.may none (.agents c)) (hperform : w.performAgent c = (r, w')) :
    staffing.hears none (.agents c) r ∧ w₀.Staffed (staffing.next none (.agents c) r) w' := by
  have hvault : w.agents.perform (w.stamps.nth w.stamps.drawn) c = (r, w'.agents) := by
    cases hperform
    rfl
  have hproper : ∀ n, (w'.stamps.nth n).time.Proper := by
    cases hperform
    exact h.proper
  have hsound := AgentVault.perform_sound hvault h.sound (hmay _ (h.proper w.stamps.drawn))
  constructor
  · cases c with
    | get id =>
      rintro a rfl
      exact h.sound.memory.agents a (AgentVault.perform_get hvault)
    | _ => trivial
  · have hnext : staffing.next none (.agents c) r = if c.tookEffect r then some c else none := rfl
    rw [hnext]
    obtain ⟨heffect, hsame⟩ | ⟨heffect, hafter, -⟩ := AgentVault.perform_cases hvault
    · rw [heffect]
      exact ⟨hproper, hsound, fun _ => hsame.trans (h.unchanged rfl), nofun⟩
    · rw [if_pos heffect]
      refine ⟨hproper, hsound, nofun, ?_⟩
      rintro _ ⟨⟩
      rw [h.unchanged rfl] at hafter
      exact ⟨_, hafter⟩

/-- A call for the agents with which something goes wrong. -/
lemma Staffed.missed {c : AgentCall} {r : Except StoreError c.Reply} (h : w₀.Staffed none w)
    (hmissed : (∃ e, r = .error e) ∨ ∃ a, c.absent? = some a ∧ r = .ok a) :
    staffing.hears none (.agents c) r ∧ w₀.Staffed (staffing.next none (.agents c) r) w := by
  have hnext : staffing.next none (.agents c) r = if c.tookEffect r then some c else none := rfl
  rw [hnext]
  obtain ⟨e, rfl⟩ | ⟨a, habsent, rfl⟩ := hmissed
  · rw [c.tookEffect_error]
    refine ⟨?_, h⟩
    cases c <;> first | trivial | rintro a ⟨⟩
  · rw [AgentCall.tookEffect_absent habsent]
    refine ⟨?_, h⟩
    cases c <;> cases habsent <;> first | trivial | rintro a ⟨⟩

/-- A world goes along with what the work for a request does to the agents. -/
lemma Staffed.answer {event : Option AgentCall} {c : Call} {r : c.Reply} (h : w₀.Staffed event w)
    (hmay : staffing.may event c) (hanswer : World.answer c w = (some r, w')) :
    staffing.hears event c r ∧ w₀.Staffed (staffing.next event c r) w' := by
  cases event with
  | some c => exact absurd hmay id
  | none =>
    cases c with
    | stamp =>
      cases hanswer
      exact ⟨h.proper _, h.aside ⟨rfl, rfl⟩⟩
    | chats c => exact ⟨trivial, h.aside (askChats_aside hanswer)⟩
    | invoke r => exact ⟨trivial, h.aside (askModel_aside hanswer)⟩
    | openStream r => exact ⟨trivial, h.aside (askStream_aside hanswer)⟩
    | agents c =>
      obtain ⟨hnone, -⟩ | ⟨r, hr, hmissed, haside⟩ | ⟨r, w₁, hr, haside, hperform⟩ :=
        askAgents_cases hanswer
      · cases hnone
      · obtain rfl := Option.some.inj hr
        exact (h.aside haside).missed hmissed
      · obtain rfl := Option.some.inj hr
        exact (h.aside haside).perform hmay hperform

/-- The work for a request is broken off before anything is done to the agents. -/
lemma Staffed.lost {event : Option AgentCall} {c : Call} (h : w₀.Staffed event w)
    (hmay : staffing.may event c) (hanswer : World.answer c w = (none, w')) :
    w₀.Staffed none w' := by
  cases event with
  | some c => exact absurd hmay id
  | none =>
    refine h.aside ?_
    cases c with
    | stamp => cases hanswer
    | chats c => exact askChats_aside hanswer
    | invoke r => exact askModel_aside hanswer
    | openStream r => exact askStream_aside hanswer
    | agents c =>
      obtain ⟨-, haside⟩ | ⟨r, hr, -⟩ | ⟨r, w₁, hr, -⟩ := askAgents_cases hanswer
      · exact haside
      · cases hr
      · cases hr

/-- What a request leaves of the agents, by its response if there is one. -/
structure AgentsServed (w : World) (request : Http.Request) (response : Option Http.Response)
    (w' : World) : Prop where
  /-- A request that is rejected, that fails or that is dropped changes nothing. -/
  unchanged : (∀ r, response = some r → 400 ≤ r.status) → w'.agents = w.agents
  /-- A request to replace an agent makes none and removes none, and each keeps its identifier and
  the time of its making. -/
  kept : request.method = "PUT" → w'.agents.memory.origins = w.agents.memory.origins
  /-- It replaces the agent that it names, if it succeeds. -/
  replaced : ∀ part r, request.method = "PUT" →
    Route.ofPath? request.path = some (.agent part) → response = some r → r.status < 400 →
    ∃ id old new, pathId part = .ok id ∧ w.agents.memory.find? id = some old ∧
      new.id = id ∧ new.createdAt = old.createdAt ∧ new.Sound ∧
      w'.agents.memory = w.agents.memory.replace new
  /-- Nobody is told that an agent cannot be run. -/
  runnable : ∀ r, response = some r →
    ¬(r.status = 500 ∧ r.body = Refusal.badAgent.response.body)

lemma AgentsServed.unanswered {request : Http.Request} (hagents : w'.agents = w.agents) :
    w.AgentsServed request none w' where
  unchanged _ := hagents
  kept _ := by rw [hagents]
  replaced _ _ _ _ h := by cases h
  runnable _ h := by cases h

lemma verb_of_put {verb : Verb} {request : Http.Request} (hverb : request.method ∈ verb.methods)
    (h : request.method = "PUT") : verb = .put := by
  rw [h] at hverb
  cases verb <;> simp [Verb.methods] at hverb
  rfl

/-- Once the work for a request is done. -/
lemma Staffed.served {route : Route} {verb : Verb} {event : Option AgentCall}
    {out : Except Refusal Http.Response} {request : Http.Request}
    (hsound : w.agents.Sound) (hroute : Route.ofPath? request.path = some route)
    (hverb : request.method ∈ verb.methods) (h : w.Staffed event w')
    (hstaffs : Staffs route verb event out) : w.AgentsServed request
      (some (withoutBodyFor request (openToAll (responseOf out)))) w' := by
  constructor
  case unchanged =>
    intro hfailed
    cases event with
    | none => exact h.unchanged rfl
    | some c =>
      have hstatus := hfailed _ rfl
      rw [complete_status] at hstatus
      exact absurd hstaffs.status (Nat.not_lt.2 hstatus)
  case kept =>
    intro hmethod
    obtain rfl := verb_of_put hverb hmethod
    cases event with
    | none => rw [h.unchanged rfl]
    | some c =>
      obtain ⟨part, a, -, -, rfl⟩ := hstaffs.put
      obtain ⟨stamp, hafter⟩ := h.changed _ rfl
      generalize w'.agents.memory = r at hafter
      cases hafter with
      | replaced hold => exact Roster.origins_replace hsound.memory.toFit hold rfl
  case replaced =>
    intro part r hmethod hpart hr hstatus
    obtain rfl := verb_of_put hverb hmethod
    rw [hroute] at hpart
    cases hpart
    cases hr
    rw [complete_status] at hstatus
    cases event with
    | none => exact absurd hstaffs.put_failed (Nat.not_le.2 hstatus)
    | some c =>
      obtain ⟨_, a, ⟨⟩, hid, rfl⟩ := hstaffs.put
      obtain ⟨stamp, hafter⟩ := h.changed _ rfl
      generalize hmemory : w'.agents.memory = r at hafter
      cases hafter with
      | @replaced _ old hold =>
        refine ⟨a.id, old, { a with createdAt := old.createdAt, updatedAt := stamp.time }, hid,
          hold,
          rfl, rfl, ?_, rfl⟩
        refine h.sound.memory.agents _ ?_
        rw [hmemory]
        have hid : old.id = a.id := by simpa using List.find?_some hold
        exact List.mem_map.2 ⟨old, List.mem_of_find?_eq_some hold, if_pos hid⟩
  case runnable =>
    rintro _ ⟨⟩
    exact mt badAgent_of_complete hstaffs.runnable

/-- What a request leaves of sound agents, whatever fails meanwhile. -/
theorem serve_agents {default : String} {request : Http.Request} {response : Option Http.Response}
    (hproper : ∀ n, (w.stamps.nth n).time.Proper) (hsound : w.agents.Sound)
    (hserve : w.serve default request = (response, w')) :
    (∀ n, (w'.stamps.nth n).time.Proper) ∧ w'.agents.Sound ∧
      w.AgentsServed request response w' := by
  obtain ⟨r, hstatus, hrun⟩ | ⟨route, verb, endpoint, hroute, hmem, hverb, hrun⟩ :=
    respond_cases default request w.stamps
  · rw [serve, hrun] at hserve
    cases hserve
    refine ⟨hproper, hsound, fun _ => rfl, fun _ => rfl, ?_, ?_⟩
    · rintro part _ hmethod - ⟨⟩ hlow
      obtain hstatus | ⟨hoptions, -⟩ := hstatus
      · omega
      · exact absurd (hoptions.symm.trans hmethod) (by decide)
    · rintro _ ⟨⟩ ⟨hbad, -⟩
      omega
  · rw [serve, hrun] at hserve
    obtain ⟨n, hn⟩ := Route.endpoints_draws _ hmem w.stamps
    have hstart : w.Staffed none
        { w with stamps := (endpoint.run w.stamps).2, cancelAt := none } :=
      ⟨by rw [hn]; exact hproper, hsound, fun _ => rfl, fun _ h => (by cases h)⟩
    obtain ⟨_, event, rfl, hstaffed, out, hstaffs, rfl⟩ |
        ⟨event, w₁, c, rfl, hstaffed, hmay, hlost⟩ :=
      (keeps_complete (Route.endpoints_staffs hmem w.stamps)).run Staffed.answer hstart hserve
    · exact ⟨hstaffed.proper, hstaffed.sound, hstaffed.served hsound hroute hverb hstaffs⟩
    · have hw' := hstaffed.lost hmay hlost
      exact ⟨hw'.proper, hw'.sound, .unanswered (hw'.unchanged rfl)⟩

/-- A world whose agents began with an empty store and were changed by requests alone. In between
anything else may happen, the disk may refuse to write or be blocked, and the store may be opened
from its slot again. -/
inductive Tended : World → Prop
  | empty {w : World} (hmemory : w.agents.memory = {}) (hslot : w.agents.slot.entry = .absent)
    (hproper : ∀ n, (w.stamps.nth n).time.Proper) : Tended w
  | served {w w' : World} {default : String} {request : Http.Request}
    {response : Option Http.Response} (h : Tended w)
    (hserve : w.serve default request = (response, w')) : Tended w'
  | elsewhere {w w' : World} (h : Tended w) (hagents : w'.agents = w.agents)
    (hproper : ∀ n, (w'.stamps.nth n).time.Proper) : Tended w'
  | disk {w : World} (h : Tended w) {slot : Slot} (hslot : slot.entry = w.agents.slot.entry ∨
      slot.entry = .absent ∨ slot.entry = .folder) :
    Tended { w with agents := ⟨w.agents.memory, slot⟩ }
  | reopened {w : World} {v : AgentVault} {stamps : Stamps} (h : Tended w)
    (hopen : (AgentVault.openSlot w.agents.slot).run w.stamps = (.ok v, stamps)) :
    Tended { w with agents := v, stamps }

lemma Tended.sound (h : w.Tended) :
    (∀ n, (w.stamps.nth n).time.Proper) ∧ w.agents.Sound := by
  induction h with
  | empty hmemory hslot hproper =>
    refine ⟨hproper, ?_, fun text htext => ?_⟩
    · rw [hmemory]
      exact Roster.sound_empty
    · rw [hslot] at htext
      cases htext
  | served _ hserve ih =>
    obtain ⟨hproper, hsound, -⟩ := serve_agents ih.1 ih.2 hserve
    exact ⟨hproper, hsound⟩
  | elsewhere _ hagents hproper ih => exact ⟨hproper, hagents ▸ ih.2⟩
  | disk _ hslot ih =>
    refine ⟨ih.1, ih.2.memory, fun text htext => ?_⟩
    obtain hsame | hslot | hslot := hslot
    · exact ih.2.slot text (hsame ▸ htext)
    · cases hslot.symm.trans htext
    · cases hslot.symm.trans htext
  | reopened _ hopen ih =>
    obtain ⟨hsound, rfl⟩ := AgentVault.openSlot_sound ih.2 hopen
    exact ⟨ih.1, hsound⟩

/-- In a store that began empty every agent can be run and has a name, whatever was requested,
whatever failed and whenever the store was opened again. No request leaves anything of itself unless
it succeeds, agents that are replaced stay who they are, and no message is refused because its agent
cannot be run. -/
theorem tended_agents (h : w.Tended) : (∀ a ∈ w.agents.memory.agents, a.Sound) ∧
    ∀ default request response w', w.serve default request = (response, w') →
      w.AgentsServed request response w' := by
  obtain ⟨hproper, hsound⟩ := h.sound
  exact ⟨hsound.memory.agents, fun _ _ _ _ hserve => (serve_agents hproper hsound hserve).2.2⟩

/-- An agent is posted. Then the disk refuses to write, and another cannot be put in its place. -/
theorem tended_agents_kept : ∃ (w w' : World) (request : Http.Request) (response : Http.Response),
    w.Tended ∧ w.agents.memory.agents.map (·.name) = ["Ada"] ∧
      w.serve "" request = (some response, w') ∧ request.method = "PUT" ∧ response.status = 500 ∧
      (∀ a ∈ w.agents.memory.agents, a.Sound) ∧ w.AgentsServed request (some response) w' := by
  let w : World := { model := .unreachable, stamps := ⟨fun _ => ⟨.ofNat 1, ⟨0, 0⟩⟩, 0⟩ }
  let payload : String := "\x7b\"name\":\" Ada \",\"steps\":[\x7b\"name\":\"a\",\"systemTemplate\":" ++
    "\"s\",\"messageTemplate\":\"m\"\x7d]\x7d"
  let post : Http.Request :=
    { method := "POST"
      path := "/api/agents".toList
      headers := [("content-type", "application/json")]
      body := Text.Utf8.ofString payload }
  let put : Http.Request :=
    { post with method := "PUT", path := ("/api/agents/" ++ (Id.ofNat 1).text).toList }
  let w₁ := (w.serve "" post).2
  let w₂ : World :=
    { w₁ with agents := ⟨w₁.agents.memory, { w₁.agents.slot with refusal := some Slot.isFolder }⟩ }
  have htime : Timestamp.Proper ⟨0, 0⟩ := ⟨by decide, by decide, by decide⟩
  have hproper : ∀ n, (w.stamps.nth n).time.Proper := fun _ => htime
  have hposted : w₁.Tended := (Tended.empty rfl rfl hproper).served (Prod.eta _).symm
  have htended : w₂.Tended := hposted.disk (.inl rfl)
  have hnames : w₂.agents.memory.agents.map (·.name) = ["Ada"] := by decide +kernel
  have hstatus : (w₂.serve "" put).1.map (·.status) = some 500 := by decide +kernel
  obtain ⟨response, hresponse, hfailed⟩ := Option.map_eq_some_iff.1 hstatus
  have hserve : w₂.serve "" put = (some response, (w₂.serve "" put).2) := by rw [← hresponse]
  obtain ⟨hsound, hserved⟩ := tended_agents htended
  exact ⟨w₂, _, put, response, htended, hnames, hserve, rfl, hfailed, hsound,
    hserved _ _ _ _ hserve⟩

end World

end Parley
