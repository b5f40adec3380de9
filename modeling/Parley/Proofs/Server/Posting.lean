import Parley.Proofs.Server.Sending
import Parley.Server.Endpoints

/-!
# What posting a message leaves

A request to post a message is read as one to send (`Sending.Of`), or it is malformed. What sending
it leaves of a ledger in an idle world depends on the last reply to it (`Sends.leaves`): nothing at
all, the message alone, or the message and one for the reply.
-/

namespace Parley

lemma pathId_error {part : List Char} {r : Refusal} (h : pathId part = .error r) :
    r = .badPath := by
  unfold pathId at h
  split at h <;> cases h
  rfl

lemma partId_error {part : Option (List Char)} {r : Refusal} (h : part.mapM pathId = .error r) :
    r = .badPath := by
  cases part with
  | none => cases h
  | some part =>
    cases hpath : pathId part with
    | error r' =>
      rw [Option.mapM_some, hpath] at h
      cases h
      exact pathId_error hpath
    | ok id =>
      rw [Option.mapM_some, hpath] at h
      cases h

lemma formOf_error {names : List String} {request : Http.Request} {r : Refusal}
    (h : formOf names request = .error r) (message : String) : r ≠ .internal message := by
  unfold formOf at h
  dsimp only at h
  split_ifs at h <;> cases h <;> nofun

namespace Sending

lemma agentOf_error {field : Option String} {r : Refusal} (h : agentOf field = .error r) :
    r = .invalidField "agent" "Invalid agent" := by
  unfold agentOf at h
  split at h
  · cases h
  · split at h <;> cases h
    rfl

/-- A request is read as a message to send: the trimmed text, and what else the form asks for. -/
structure Of (request : Http.Request) (s : Sending) : Prop where
  form : ∃ fields, formOf fieldNames request = .ok fields ∧
    (∃ raw, fields.lookup "message" = some raw ∧ s.message = Text.trim raw) ∧
    s.prompt = (fields.lookup "prompt").bind Text.trimmed? ∧
    agentOf (fields.lookup "agent") = .ok s.agent

lemma ofFields_cases (fields : List (String × String)) :
    (∃ r, ofFields fields = .error r ∧ ∀ message, r ≠ .internal message) ∨
      ∃ s, ofFields fields = .ok s ∧
        (∃ raw, fields.lookup "message" = some raw ∧ s.message = Text.trim raw) ∧
        s.prompt = (fields.lookup "prompt").bind Text.trimmed? ∧
        agentOf (fields.lookup "agent") = .ok s.agent := by
  unfold ofFields
  split_ifs
  · exact .inl ⟨_, rfl, nofun⟩
  split
  · exact .inl ⟨_, rfl, nofun⟩
  · next message hmessage =>
    cases hagent : agentOf (fields.lookup "agent") with
    | error r =>
      obtain rfl := agentOf_error hagent
      exact .inl ⟨_, rfl, nofun⟩
    | ok agent =>
      refine .inr ⟨_, rfl, ?_, rfl, rfl⟩
      obtain ⟨raw, hraw, htrimmed⟩ := Option.bind_eq_some_iff.1 hmessage
      refine ⟨raw, hraw, ?_⟩
      unfold Text.trimmed? at htrimmed
      split_ifs at htrimmed
      exact (Option.some.inj htrimmed).symm

end Sending

open Handler

/-- A request to send a message is malformed, or the message is sent. -/
lemma Endpoint.ran_postMessage {default : String} {part : Option (List Char)}
    {request : Http.Request} {log : List Asked} {out : Except Refusal Http.Response}
    (h : Ran (postMessage default part request) log out) :
    (log = [] ∧ ∃ r, out = .error r ∧ ∀ message, r ≠ .internal message) ∨
      ∃ id s, part.mapM pathId = .ok id ∧ Sending.Of request s ∧ Sending.Sends s id log out := by
  obtain ⟨r, hpath, rfl⟩ | ⟨front, rest, id, rfl, hpath, hform⟩ := ran_bind_iff.1 h
  · obtain ⟨rfl, hr⟩ := ran_ofExcept_iff.1 hpath
    exact .inl ⟨rfl, r, rfl, fun message => partId_error hr.symm ▸ nofun⟩
  obtain ⟨rfl, hid⟩ := ran_ofExcept_iff.1 hpath
  obtain ⟨r, hread, rfl⟩ | ⟨front, rest, fields, rfl, hread, hfields⟩ := ran_bind_iff.1 hform
  · obtain ⟨rfl, hr⟩ := ran_ofExcept_iff.1 hread
    exact .inl ⟨rfl, r, rfl, formOf_error hr.symm⟩
  obtain ⟨rfl, hfound⟩ := ran_ofExcept_iff.1 hread
  obtain ⟨r, hsending, rfl⟩ | ⟨front, rest, s, rfl, hsending, hsends⟩ := ran_bind_iff.1 hfields
  · obtain ⟨rfl, hr⟩ := ran_ofExcept_iff.1 hsending
    obtain ⟨r', hr', hclient⟩ | ⟨s, hs, -⟩ := Sending.ofFields_cases fields
    · rw [hr'] at hr
      cases hr
      exact .inl ⟨rfl, r, rfl, hclient⟩
    · rw [hs] at hr
      cases hr
  obtain ⟨rfl, hs⟩ := ran_ofExcept_iff.1 hsending
  obtain ⟨r, hr, -⟩ | ⟨s', hs', hof⟩ := Sending.ofFields_cases fields
  · rw [hr] at hs
    cases hs
  · rw [hs'] at hs
    cases hs
    exact .inr ⟨id, s, hid.symm, ⟨fields, hfound.symm, hof⟩, Sending.ran_send hsends⟩

namespace Sending

/-- Messages were added to a chat that was there, or to a chat that was made for them. -/
inductive Posted (s : Sending) (l : Ledger) : Option Id → Id → List Message → Ledger → Prop
  | there {id : Id} (h : l.contains id) (ms : List Message) (now : Timestamp) :
    Posted s l (some id) id ms
      (l.modify id fun c => { c with messages := c.messages ++ ms, updatedAt := now })
  | new (stamp : Stamp) (h : l.contains stamp.id = false) (ms : List Message) (now : Timestamp) :
    Posted s l none stamp.id ms (l.insert { s.newChat stamp with messages := ms, updatedAt := now })

variable {s : Sending} {l l₁ l₂ : Ledger} {id : Option Id} {chat : Id} {ms : List Message}
  {stamp : Stamp} {sender : Sender} {content : String} {m : Message}

lemma Posted.add (h : Posted s l id chat ms l₁)
    (hadd : l₁.Carried stamp (.addMessage chat sender content) (.ok m) l₂) :
    Posted s l id chat (ms ++ [m]) l₂ ∧ m = .new stamp chat sender content := by
  obtain ⟨hm, -, rfl⟩ := hadd.addMessage
  refine ⟨?_, hm⟩
  cases h with
  | there h ms now =>
    have hposted := Posted.there (s := s) h (ms ++ [m]) stamp.time
    rw [Ledger.modify_modify]
    · simpa only [Chat.addMessage, List.append_assoc] using hposted
    · exact fun _ => rfl
  | new made h ms now =>
    rw [show made.id = { s.newChat made with messages := ms, updatedAt := now : Chat }.id from rfl,
      Ledger.modify_insert h]
    exact .new made h (ms ++ [m]) stamp.time

variable {w w' : World} {log : List Asked} {found : Option Chat} {turn : Turn} {r : Refusal}

lemma Finds.unwritten (h : Finds id log found) : ∀ x ∈ log, x.call.writes = false :=
  fun x hx => Call.unwritten_of_isLookup (h.lookups x hx)

lemma turned_unwritten {x : Asked} (hlog : ∀ x ∈ log, x.call.isLookup) (hx : Turned x r) :
    ∀ y ∈ log ++ [x], y.call.writes = false := by
  refine List.forall_mem_append.2 ⟨fun y hy => Call.unwritten_of_isLookup (hlog y hy), ?_⟩
  refine List.forall_mem_singleton.2 ?_
  cases hx <;> rfl

lemma Finds.replied (h : Finds id log found) (hidle : w.Idle)
    (hreplied : Task.Replied World.answer w log w') :
    w'.chats.memory = w.chats.memory ∧ w'.Idle ∧ id = found.map (·.id) := by
  obtain ⟨hmemory, hidle'⟩ := World.replied_unwritten hidle h.unwritten hreplied
  refine ⟨hmemory, hidle', ?_⟩
  cases h with
  | new => rfl
  | there h =>
    obtain ⟨w₁, hget, -⟩ := Task.replied_cons_iff.1 hreplied
    obtain ⟨⟨stamp, hcarried⟩, -⟩ := World.answer_carried hidle hget
    exact congrArg some (Ledger.find?_id hcarried.get).symm

lemma Saves.replied (h : Saves s found log turn) (hidle : w.Idle)
    (hreplied : Task.Replied World.answer w log w') :
    w'.Idle ∧ ∃ sent,
      Posted s w.chats.memory (found.map (·.id)) turn.chatId [sent] w'.chats.memory ∧
      sent.sender = .human ∧ sent.content = s.message ∧ turn.userMessageId = sent.id ∧
      turn.createdChat = found.isNone := by
  cases h with
  | there chat sent =>
    have hadd := Task.replied_singleton_iff.1 hreplied
    obtain ⟨⟨stamp, hcarried⟩, hidle'⟩ := World.answer_carried hidle hadd
    obtain ⟨rfl, hthere, hmemory⟩ := hcarried.addMessage
    rw [hmemory]
    exact ⟨hidle', _, .there hthere [_] stamp.time, rfl, rfl, rfl, rfl⟩
  | new stamp made sent =>
    obtain ⟨w₁, hstamp, hrest⟩ := Task.replied_cons_iff.1 hreplied
    obtain ⟨w₂, hcreate, hrest⟩ := Task.replied_cons_iff.1 hrest
    have hadd := Task.replied_singleton_iff.1 hrest
    obtain ⟨hmemory, hidle₁⟩ := World.answer_unwritten hidle (.inr rfl) hstamp
    obtain ⟨⟨_, hcreated⟩, hidle₂⟩ := World.answer_carried hidle₁ hcreate
    obtain ⟨⟨_, hadded⟩, hidle₃⟩ := World.answer_carried hidle₂ hadd
    obtain ⟨rfl, hfresh, hinserted⟩ := hcreated.create
    rw [hmemory] at hfresh hinserted
    rw [hinserted] at hadded
    obtain ⟨hposted, rfl⟩ := (Posted.new stamp hfresh [] stamp.time).add hadded
    exact ⟨hidle₃, _, hposted, rfl, rfl, rfl, rfl⟩

/-- A reply on which a message is given up with nothing changed: it was turned away, or it could not
be saved, and the chat made for it is gone again. -/
inductive Dismissed : Asked → Prop
  | turned {x : Asked} {r : Refusal} (h : Turned x r) : Dismissed x
  | unsent (id : Id) (text : String) (e : StoreError) :
    Dismissed ⟨.chats (.addMessage id .human text), .error e⟩
  | uncreated (chat : Chat) (e : StoreError) : Dismissed ⟨.chats (.create chat), .error e⟩
  | deleted (id : Id) : Dismissed ⟨.chats (.delete id), .ok true⟩

/-- A reply on which a message that was saved gets no answer: the run failed, or there can be no
message for the answer. -/
inductive Stopped : Asked → Prop
  | invoke (r : Request) (e : RunError) : Stopped ⟨.invoke r, .error e⟩
  | openStream (r : Request) (e : RunError) : Stopped ⟨.openStream r, .error e⟩
  | place (id : Id) (e : StoreError) : Stopped ⟨.chats (.addMessage id .ai ""), .error e⟩

lemma Dismissed.not_stopped {x : Asked} (h : Dismissed x) : ¬Stopped x := by
  rintro (_ | _ | _) <;>
  · obtain h | _ | _ | _ := h
    cases h

lemma not_stopped_of_isLookup {x : Asked} (h : x.call.isLookup) : ¬Stopped x := by
  rintro (_ | _ | _) <;> cases h

lemma Finds.not_stopped (h : Finds id log found) : ∀ x ∈ log, ¬Stopped x :=
  fun x hx => not_stopped_of_isLookup (h.lookups x hx)

lemma Saves.not_stopped (h : Saves s found log turn) : ∀ x ∈ log, ¬Stopped x := by
  cases h with
  | there => exact List.forall_mem_singleton.2 nofun
  | new =>
    simp only [List.forall_mem_cons]
    exact ⟨nofun, nofun, nofun, List.forall_mem_nil _⟩

/-- What sending a message comes to and leaves of a ledger, by the last reply to it. -/
inductive Leaves (s : Sending) (id : Option Id) (l : Ledger) :
    List Asked → Except Refusal Http.Response → Ledger → Prop
  | dismissed {log : List Asked} {x : Asked} {r : Refusal} (hlog : ∀ x ∈ log, ¬Stopped x)
    (hx : Dismissed x) (hr : r.response.status = 404 ∨ r.response.status = 500) :
    Leaves s id l (log ++ [x]) (.error r) l
  | undeleted {log : List Asked} {chat : Id} {reply : Except StoreError Bool} (stamp : Stamp)
    (hlog : ∀ x ∈ log, ¬Stopped x) (hreply : reply ≠ .ok true) (message : String) :
    Leaves s id l (log ++ [⟨.chats (.delete chat), reply⟩]) (.error (.internal message))
      (l.insert (s.newChat stamp))
  | stopped {log : List Asked} {x : Asked} {chat : Id} {sent : Message} {l' : Ledger}
    (hx : Stopped x) (h : Posted s l id chat [sent] l') (hsender : sent.sender = .human)
    (hcontent : sent.content = s.message) (message : String) :
    Leaves s id l (log ++ [x]) (.error (.internal message)) l'
  | answered {log : List Asked} {chat : Id} {sent reply : Message} {turn : Turn} {l' : Ledger}
    (hlog : ∀ x ∈ log, ¬Stopped x) (h : Posted s l id chat [sent, reply] l')
    (hsent : sent.sender = .human ∧ sent.content = s.message)
    (hreply : reply.sender = .ai ∧ reply.content = "") (hturn : turn.chatId = chat ∧
      turn.userMessageId = sent.id ∧ turn.createdChat = id.isNone) (stream : Stream) :
    Leaves s id l (log ++ [⟨.chats (.addMessage chat .ai ""), .ok reply⟩])
      (.ok (response reply.id turn stream)) l'

lemma Leaves.after {looks : List Asked} {out : Except Refusal Http.Response} {l' : Ledger}
    (h : Leaves s id l log out l') (hlooks : ∀ x ∈ looks, ¬Stopped x) :
    Leaves s id l (looks ++ log) out l' := by
  have hboth {log : List Asked} (hlog : ∀ x ∈ log, ¬Stopped x) : ∀ x ∈ looks ++ log, ¬Stopped x :=
    fun x hx => (List.mem_append.1 hx).elim (hlooks x) (hlog x)
  cases h with
  | dismissed hlog hx hr =>
    rw [← List.append_assoc]
    exact .dismissed (hboth hlog) hx hr
  | undeleted stamp hlog hreply message =>
    rw [← List.append_assoc]
    exact .undeleted stamp (hboth hlog) hreply message
  | stopped hx h hsender hcontent message =>
    rw [← List.append_assoc]
    exact .stopped hx h hsender hcontent message
  | answered hlog h hsent hreply hturn stream =>
    rw [← List.append_assoc]
    exact .answered (hboth hlog) h hsent hreply hturn stream

lemma Unsaved.leaves (h : Unsaved s found log r) (hidle : w.Idle)
    (hreplied : Task.Replied World.answer w log w') :
    Leaves s (found.map (·.id)) w.chats.memory log (.error r) w'.chats.memory := by
  cases h with
  | unsent chat e =>
    have hadd := Task.replied_singleton_iff.1 hreplied
    obtain ⟨⟨stamp, hcarried⟩, -⟩ := World.answer_carried hidle hadd
    rw [hcarried.failure]
    exact @Leaves.dismissed _ _ _ [] _ _ (List.forall_mem_nil _) (.unsent ..) (.inr rfl)
  | uncreated stamp e =>
    obtain ⟨w₁, hstamp, hrest⟩ := Task.replied_cons_iff.1 hreplied
    have hcreate := Task.replied_singleton_iff.1 hrest
    obtain ⟨hmemory, hidle₁⟩ := World.answer_unwritten hidle (.inr rfl) hstamp
    obtain ⟨⟨_, hcarried⟩, -⟩ := World.answer_carried hidle₁ hcreate
    rw [hcarried.failure, hmemory]
    exact @Leaves.dismissed _ _ _ [_] _ _ (List.forall_mem_singleton.2 nofun) (.uncreated ..)
      (.inr rfl)
  | undone stamp made e reply =>
    obtain ⟨w₁, hstamp, hrest⟩ := Task.replied_cons_iff.1 hreplied
    obtain ⟨w₂, hcreate, hrest⟩ := Task.replied_cons_iff.1 hrest
    obtain ⟨w₃, hadd, hrest⟩ := Task.replied_cons_iff.1 hrest
    have hdelete := Task.replied_singleton_iff.1 hrest
    obtain ⟨hmemory, hidle₁⟩ := World.answer_unwritten hidle (.inr rfl) hstamp
    obtain ⟨⟨_, hcreated⟩, hidle₂⟩ := World.answer_carried hidle₁ hcreate
    obtain ⟨⟨_, hadded⟩, hidle₃⟩ := World.answer_carried hidle₂ hadd
    obtain ⟨⟨_, hdeleted⟩, -⟩ := World.answer_carried hidle₃ hdelete
    obtain ⟨rfl, hfresh, hinserted⟩ := hcreated.create
    rw [hmemory] at hfresh hinserted
    rw [hadded.failure, hinserted] at hdeleted
    have hquiet : ∀ x ∈ ([⟨.stamp, stamp⟩,
        ⟨.chats (.create (s.newChat stamp)), .ok (s.newChat stamp)⟩,
        ⟨.chats (.addMessage (s.newChat stamp).id .human s.message), .error e⟩] : List Asked),
        ¬Stopped x := by
      simp only [List.forall_mem_cons]
      exact ⟨nofun, nofun, nofun, List.forall_mem_nil _⟩
    by_cases hreply : reply = .ok true
    · subst hreply
      rw [hdeleted.delete, Ledger.erase_insert hfresh]
      exact .dismissed hquiet (.deleted _) (.inr rfl)
    · rw [hdeleted.undeleted hreply]
      exact .undeleted stamp hquiet hreply _

lemma run_unwritten {p : Plan} {c c' : Context} {out : Except RunError Stream}
    (h : (p.run c).Ran log (c', out)) : ∀ x ∈ log, x.call.writes = false := by
  obtain ⟨stages, hexecutes⟩ := Plan.ran_iff_executes.1 h
  intro x hx
  obtain ⟨_, _, rfl⟩ | ⟨_, _, rfl⟩ := hexecutes.calls_model x hx <;> rfl

lemma run_stopped {p : Plan} {c c' : Context} {e : RunError}
    (h : (p.run c).Ran log (c', .error e)) : ∃ front x, log = front ++ [x] ∧ Stopped x := by
  obtain ⟨stages, hexecutes⟩ := Plan.ran_iff_executes.1 h
  obtain ⟨front, r, rfl | rfl⟩ := hexecutes.error_replied
  · exact ⟨front, _, rfl, .invoke r e⟩
  · exact ⟨front, _, rfl, .openStream r e⟩

lemma run_not_stopped {p : Plan} {c c' : Context} {stream : Stream}
    (h : (p.run c).Ran log (c', .ok stream)) : ∀ x ∈ log, ¬Stopped x := by
  obtain ⟨stages, hexecutes⟩ := Plan.ran_iff_executes.1 h
  intro x hx
  obtain ⟨_, _, rfl⟩ | ⟨_, rfl⟩ := hexecutes.ok_replied x hx <;> nofun

/-- Nothing goes wrong before a stream has opened. -/
lemma opened_not_stopped {looks saves asks : List Asked} {p : Plan} {c c' : Context}
    {stream : Stream} (hlooks : Finds id looks found) (hsaves : Saves s found saves turn)
    (hrun : (p.run c).Ran asks (c', .ok stream)) : ∀ x ∈ looks ++ saves ++ asks, ¬Stopped x := by
  refine List.forall_mem_append.2 ⟨?_, run_not_stopped hrun⟩
  exact List.forall_mem_append.2 ⟨hlooks.not_stopped, hsaves.not_stopped⟩

lemma placeholderCreated_eq {t t' : Turn} {m : Id} (h : t.placeholderCreated m = .ok t') :
    t' = { t with state := .aiPlaceholderCreated, aiMessageId := some m } := by
  unfold Turn.placeholderCreated Turn.advance at h
  split_ifs at h <;> cases h
  rfl

/-- A message is saved, and then the model is asked. -/
lemma saved_and_asked {looks saves asks : List Asked} (hlooks : Finds id looks found)
    (hsaves : Saves s found saves turn) (hasks : ∀ x ∈ asks, x.call.writes = false)
    (hidle : w.Idle) (hreplied : Task.Replied World.answer w (looks ++ saves ++ asks) w') :
    w'.Idle ∧ ∃ sent, Posted s w.chats.memory id turn.chatId [sent] w'.chats.memory ∧
      (sent.sender = .human ∧ sent.content = s.message) ∧ turn.userMessageId = sent.id ∧
      turn.createdChat = id.isNone := by
  obtain ⟨w₂, hfront, hrest⟩ := Task.replied_append_iff.1 hreplied
  obtain ⟨w₁, hlooked, hsaved⟩ := Task.replied_append_iff.1 hfront
  obtain ⟨hmemory₁, hidle₁, rfl⟩ := hlooks.replied hidle hlooked
  obtain ⟨hidle₂, sent, hposted, hsender, hcontent, hsent, hcreated⟩ := hsaves.replied hidle₁ hsaved
  obtain ⟨hmemory, hidle'⟩ := World.replied_unwritten hidle₂ hasks hrest
  rw [hmemory₁, ← hmemory] at hposted
  exact ⟨hidle', sent, hposted, ⟨hsender, hcontent⟩, hsent, by simp [hcreated]⟩

/-- Sending a message in an idle world leaves what the last reply says. -/
theorem Sends.leaves {out : Except Refusal Http.Response} (h : Sends s id log out) (hidle : w.Idle)
    (hreplied : Task.Replied World.answer w log w') :
    Leaves s id w.chats.memory log out w'.chats.memory := by
  cases h with
  | @turned log x r hlog hx =>
    rw [(World.replied_unwritten hidle (turned_unwritten hlog hx) hreplied).1]
    refine .dismissed (fun y hy => not_stopped_of_isLookup (hlog y hy)) (.turned hx) ?_
    cases hx <;> simp [Refusal.response, Http.Response.json]
  | unsaved hlooks h =>
    obtain ⟨w₁, hlooked, hrest⟩ := Task.replied_append_iff.1 hreplied
    obtain ⟨hmemory, hidle₁, rfl⟩ := hlooks.replied hidle hlooked
    rw [← hmemory]
    exact (h.leaves hidle₁ hrest).after hlooks.not_stopped
  | unanswered hlooks hsaves hrun =>
    obtain ⟨front, x, rfl, hx⟩ := run_stopped hrun
    obtain ⟨-, sent, hposted, ⟨hsender, hcontent⟩, -⟩ :=
      saved_and_asked hlooks hsaves (run_unwritten hrun) hidle hreplied
    rw [← List.append_assoc]
    exact .stopped hx hposted hsender hcontent _
  | unheld hlooks hsaves hrun e =>
    obtain ⟨w₁, hfront, hadd⟩ := Task.replied_snoc_iff.1 hreplied
    obtain ⟨hidle₁, sent, hposted, ⟨hsender, hcontent⟩, -⟩ :=
      saved_and_asked hlooks hsaves (run_unwritten hrun) hidle hfront
    obtain ⟨⟨_, hcarried⟩, -⟩ := World.answer_carried hidle₁ hadd
    rw [hcarried.failure]
    exact .stopped (.place _ e) hposted hsender hcontent _
  | @answered looks saves asks _ turn turn' _ _ _ _ reply hlooks hsaves hrun hturn =>
    obtain ⟨w₁, hfront, hadd⟩ := Task.replied_snoc_iff.1 hreplied
    obtain ⟨hidle₁, sent, hposted, hsent, hid, hcreated⟩ :=
      saved_and_asked hlooks hsaves (run_unwritten hrun) hidle hfront
    obtain ⟨⟨_, hcarried⟩, -⟩ := World.answer_carried hidle₁ hadd
    obtain ⟨hposted', rfl⟩ := hposted.add hcarried
    have hplaced : turn'.chatId = turn.chatId ∧ turn'.userMessageId = sent.id ∧
        turn'.createdChat = id.isNone := by
      rw [placeholderCreated_eq hturn]
      exact ⟨rfl, hid, hcreated⟩
    have hquiet := opened_not_stopped hlooks hsaves hrun
    exact .answered hquiet hposted' hsent ⟨rfl, rfl⟩ hplaced _

end Sending

end Parley
