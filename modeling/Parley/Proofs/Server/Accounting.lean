import Parley.Proofs.Server.Saving
import Parley.Proofs.Server.Serving

/-!
# What a request adds to the accounts

A request to post a message adds an account if its message was saved, which is read off what its
calls were told and its response (`Account.ofPost`). A world stays balanced with it, however the
request comes out (`Balanced.posted`), and so it does when a chat is deleted (`Balanced.removed`).
-/

namespace Parley

/-- The answer that is relayed in a response, if there is one. -/
def Answer.ofPost (log : List Asked) (response : Http.Response) : Option Answer :=
  match response.body, log.findSome? Asked.placed? with
  | .reply relay stream, some message => some { message, source := stream, relay, stream }
  | _, _ => none

/-- The account of a request to post a message, by what its calls were told and by its response if
there is one. -/
def Account.ofPost (log : List Asked) (response : Option Http.Response) : Option Account :=
  (log.findSome? Asked.sent?).map fun sent =>
    { sent, opens := log.any Asked.creates, answer := response.bind (Answer.ofPost log) }

/-- The chat that a call deleted. -/
def Asked.erased? : Asked → Option Id
  | ⟨.chats (.delete id), .ok true⟩ => some id
  | _ => none

/-- A request to delete a chat, and the part of its path that names the chat. -/
structure Http.Request.Deletes (request : Http.Request) (part : List Char) : Prop where
  method : request.method = "DELETE"
  route : Route.ofPath? request.path = some (.chat part)

lemma respond_delete {default : String} {request : Http.Request} {part : List Char}
    (h : request.Deletes part) :
    respond default request = pure (complete request (Endpoint.deleteChat part)) := by
  unfold respond
  rw [h.route, h.method]
  rfl

open Handler

lemma Endpoint.ran_deleteChat {part : List Char} {log : List Asked}
    {out : Except Refusal Http.Response} (h : Ran (deleteChat part) log out) :
    log = [] ∨ ∃ id reply, log = [⟨.chats (.delete id), reply⟩] := by
  obtain ⟨r, hpath, rfl⟩ | ⟨front, rest, id, rfl, hpath, hdelete⟩ := ran_bind_iff.1 h
  · exact .inl (ran_ofExcept_iff.1 hpath).1
  obtain ⟨rfl, -⟩ := ran_ofExcept_iff.1 hpath
  obtain ⟨r, hcall, rfl⟩ | ⟨front, rest, found, rfl, hcall, hdone⟩ := ran_bind_iff.1 hdelete
  · obtain ⟨reply, rfl, -⟩ := ran_chats_iff.1 hcall
    exact .inr ⟨id, reply, rfl⟩
  · obtain ⟨reply, rfl, -⟩ := ran_chats_iff.1 hcall
    refine .inr ⟨id, reply, ?_⟩
    have hrest : rest = [] := by
      cases found
      · exact (ran_refuse_iff.1 hdone).1
      · exact (ran_pure_iff.1 hdone).1
    rw [hrest]
    rfl

open Sending (Finds Saves Unsaved Sends)

namespace World

variable {w w' w'' : World} {accounts : List Account} {deleted : List Id} {s : Sending}
  {chat : Option Id} {turn : Turn} {log asks : List Asked}

namespace Balanced

lemma ofPost_eq_none (h : log.findSome? Asked.sent? = none) (response : Option Http.Response) :
    Account.ofPost log response = none := by
  rw [Account.ofPost, h, Option.map_none]

lemma ofPost_unanswered {sent : Message} (hsent : log.findSome? Asked.sent? = some sent)
    (hplaced : log.findSome? Asked.placed? = none) (response : Option Http.Response) :
    Account.ofPost log response = some { sent, opens := log.any Asked.creates } := by
  have hanswer : response.bind (Answer.ofPost log) = none := by
    cases response with
    | none => rfl
    | some r =>
      rw [Option.bind_some, Answer.ofPost, hplaced]
      cases r.body <;> rfl
  rw [Account.ofPost, hsent, Option.map_some, hanswer]

lemma any_creates_placed (log : List Asked) (chat : Id) (reply : Except StoreError Message) :
    (log ++ [(⟨.chats (.addMessage chat .ai ""), reply⟩ : Asked)]).any Asked.creates =
      log.any Asked.creates := by
  rw [List.any_append, show List.any [_] Asked.creates = false from rfl, Bool.or_false]

lemma ofPost_unheld {sent : Message} (hsent : log.findSome? Asked.sent? = some sent)
    (hplaced : log.findSome? Asked.placed? = none) (chat : Id) (e : StoreError)
    (response : Option Http.Response) :
    Account.ofPost (log ++ [⟨.chats (.addMessage chat .ai ""), .error e⟩]) response =
      some { sent, opens := log.any Asked.creates } := by
  have hsent' : (log ++ [(⟨.chats (.addMessage chat .ai ""), .error e⟩ : Asked)]).findSome?
      Asked.sent? = some sent := by rw [List.findSome?_append, hsent, Option.some_or]
  have hplaced' : (log ++ [(⟨.chats (.addMessage chat .ai ""), .error e⟩ : Asked)]).findSome?
      Asked.placed? = none := by
    rw [List.findSome?_append, hplaced, Option.none_or]
    rfl
  rw [ofPost_unanswered hsent' hplaced', any_creates_placed]

lemma ofPost_answered {sent reply : Message} (hsent : log.findSome? Asked.sent? = some sent)
    (hplaced : log.findSome? Asked.placed? = none) (hturn : turn.aiMessageId = some reply.id)
    (chat : Id) (stream : Stream) :
    Account.ofPost (log ++ [⟨.chats (.addMessage chat .ai ""), .ok reply⟩])
        (some (openToAll (responseOf (.ok (Sending.response reply.id turn stream))))) =
      some { sent, opens := log.any Asked.creates, answer := some (.begun reply turn stream) } := by
  have hbody : (openToAll (responseOf (.ok (Sending.response reply.id turn stream)))).body =
      .reply { messageId := reply.id, turn } stream := ofTurn_eq hturn stream
  have hreply : (log ++ [(⟨.chats (.addMessage chat .ai ""), .ok reply⟩ : Asked)]).findSome?
      Asked.placed? = some reply := by
    rw [List.findSome?_append, hplaced, Option.none_or]
    rfl
  rw [Account.ofPost, List.findSome?_append, hsent, Option.some_or, Option.map_some,
    any_creates_placed, Option.bind_some, Answer.ofPost, hbody, hreply]
  rfl

lemma askStream_open {r : Request} {stream : Stream} (h : w.askStream r = (some (.ok stream), w')) :
    stream.closed = false := by
  unfold askStream at h
  dsimp only at h
  split at h
  · cases h
  · generalize attend _ _ _ _ = found at h
    obtain ⟨opened, w₁⟩ := found
    obtain ⟨hreply, -⟩ := Prod.mk.inj h
    obtain ⟨feed, -, hfeed⟩ := Option.map_eq_some_iff.1 hreply
    cases feed <;> cases hfeed
    rfl

lemma opened_stream {plan : Plan} {c c' : Context} {stream : Stream}
    (hrun : (plan.run c).Ran asks (c', .ok stream)) (hreplied : Task.Replied answer w asks w') :
    stream.closed = false := by
  obtain ⟨stages, hexecutes⟩ := Plan.ran_iff_executes.1 hrun
  cases hexecutes with
  | opened h =>
    obtain ⟨w₁, -, hopen⟩ := Task.replied_append_iff.1 hreplied
    obtain ⟨w₂, hstream, -⟩ := Task.replied_cons_iff.1 hopen
    exact askStream_open hstream

/-- A message is answered: a message holds the place of the reply, and its stream is relayed. -/
lemma answered {looks saves : List Asked} {found : Option Chat} {turn' : Turn} {plan : Plan}
    {c c' : Context} {stream : Stream} {reply : Message}
    (h : w.Balanced w.doomed none accounts deleted) (hlooks : Finds chat looks found)
    (hsaves : Saves s found saves turn) (hrun : (plan.run c).Ran asks (c', .ok stream))
    (hturn : turn.placeholderCreated reply.id = .ok turn')
    (hfront : Task.Replied answer w (looks ++ saves ++ asks) w')
    (hadd : answer (.chats (.addMessage turn.chatId .ai "")) w' = (some (.ok reply), w''))
    (hw'' : w''.stamps.Distinct) :
    w''.Balanced w''.doomed none
      (accounts ++ (Account.ofPost
        (looks ++ saves ++ asks ++ [⟨.chats (.addMessage turn.chatId .ai ""), .ok reply⟩])
        (some (openToAll (responseOf (.ok (Sending.response reply.id turn' stream)))))).toList)
      deleted := by
  obtain ⟨w₁, -, hasked⟩ := Task.replied_append_iff.1 hfront
  obtain ⟨w₂, hlapse, hperform⟩ := answer_performed hadd (Option.some_ne_none _).symm
  have hw' := (hlapse.steady.trans (performChat_steady hperform)).distinct hw''
  obtain ⟨sent, hsent, hplaced, hchat, htext, hbalanced⟩ :=
    h.asked hlooks hsaves (Sending.run_unwritten hrun) hfront hw'
  have hreply := (performChat_carried hperform).addMessage.1
  have hsender : reply.sender = .ai := hreply ▸ rfl
  have hcontent : reply.content = "" := hreply ▸ rfl
  have hturn' := Sending.placeholderCreated_eq hturn
  have hid : turn'.aiMessageId = some reply.id := hturn' ▸ rfl
  have htext' : turn'.aiText = "" := hturn' ▸ htext
  have hsound := Answer.begun_sound hsender hcontent htext' (opened_stream hrun hasked)
  have hover : ¬(Answer.begun reply turn' stream).IsOver := by
    rintro (hphase | hdropped)
    · cases hphase
    · cases hdropped
  rw [ofPost_answered hsent hplaced hid, Option.toList_some, performChat_doomed hperform]
  rw [← hchat] at hperform
  exact (hbalanced.lapse hlapse).placed rfl hperform rfl hsound hover hw''

lemma sends (h : w.Balanced w.doomed none accounts deleted) {out : Except Refusal Http.Response}
    (hsends : Sends s chat log out) (hreplied : Task.Replied answer w log w')
    (hdeletes : ∀ id reply, ⟨.chats (.delete id), reply⟩ ∈ log → reply = .ok true)
    (hw' : w'.stamps.Distinct) :
    w'.Balanced w'.doomed none
      (accounts ++ (Account.ofPost log (some (openToAll (responseOf out)))).toList) deleted := by
  cases hsends with
  | turned hlog hx =>
    have hlookups := Sending.turned_unwritten hlog hx
    rw [ofPost_eq_none (unwritten_quiet_all hlookups).1, Option.toList_none, List.append_nil]
    exact h.lapse (replied_lapse hlookups hreplied)
  | @unsaved looks log _ r hlooks hunsaved =>
    obtain ⟨w₁, hlooked, hrest⟩ := Task.replied_append_iff.1 hreplied
    have hlapse := replied_lapse hlooks.unwritten hlooked
    obtain ⟨hsent, hbalanced⟩ := (h.lapse hlapse).unsaved hunsaved hrest
      (fun id reply hmem => hdeletes id reply (List.mem_append_right _ hmem)) hw'
    have hnone : (looks ++ log).findSome? Asked.sent? = none := by
      rw [List.findSome?_append, (unwritten_quiet_all hlooks.unwritten).1, hsent, Option.none_or]
    rwa [ofPost_eq_none hnone, Option.toList_none, List.append_nil]
  | unanswered hlooks hsaves hrun =>
    obtain ⟨sent, hsent, hplaced, -, -, hbalanced⟩ :=
      h.asked hlooks hsaves (Sending.run_unwritten hrun) hreplied hw'
    rwa [ofPost_unanswered hsent hplaced, Option.toList_some]
  | unheld hlooks hsaves hrun e =>
    obtain ⟨w₁, hfront, hadd⟩ := Task.replied_snoc_iff.1 hreplied
    have hfailed := answer_failed hadd
    obtain ⟨sent, hsent, hplaced, -, -, hbalanced⟩ :=
      h.asked hlooks hsaves (Sending.run_unwritten hrun) hfront (hfailed.steady.distinct hw')
    rw [ofPost_unheld hsent hplaced, Option.toList_some]
    exact hbalanced.lapse hfailed
  | answered hlooks hsaves hrun hturn =>
    obtain ⟨w₁, hfront, hadd⟩ := Task.replied_snoc_iff.1 hreplied
    exact h.answered hlooks hsaves hrun hturn hfront hadd hw'

/-- A stream was asked for only once a message was saved. -/
lemma sends_openStream {r : Request} {e : RunError} {log rest : List Asked}
    {out : Except Refusal Http.Response}
    (hsends : Sends s chat (log ++ ⟨.openStream r, .error e⟩ :: rest) out) :
    ∃ looks saves asks found turn, Finds chat looks found ∧ Saves s found saves turn ∧
      (∀ x ∈ asks, x.call.writes = false) ∧ log = looks ++ saves ++ asks := by
  have hstopped : Sending.Stopped ⟨.openStream r, .error e⟩ := .openStream r e
  have hmem : ⟨.openStream r, .error e⟩ ∈ log ++ ⟨.openStream r, .error e⟩ :: rest := by simp
  generalize hlog : log ++ ⟨.openStream r, .error e⟩ :: rest = full at hsends hmem
  cases hsends with
  | turned hlooks hx =>
    obtain hmem | hmem := List.mem_append.1 hmem
    · cases hlooks _ hmem
    · obtain rfl := List.mem_singleton.1 hmem
      cases hx
  | unsaved hlooks hunsaved =>
    obtain hmem | hmem := List.mem_append.1 hmem
    · exact absurd hstopped (hlooks.not_stopped _ hmem)
    · cases hunsaved <;> simp at hmem
  | @unanswered looks saves asks _ turn _ _ _ _ hlooks hsaves hrun =>
    obtain ⟨front, rfl, rfl⟩ | ⟨front, hfront, hrest⟩ := List.append_eq_append_iff.1 hlog.symm
    · refine ⟨looks, saves, front, _, turn, hlooks, hsaves, fun x hx => ?_, rfl⟩
      exact Sending.run_unwritten hrun x (List.mem_append_left _ hx)
    · cases front with
      | nil =>
        refine ⟨looks, saves, [], _, turn, hlooks, hsaves, List.forall_mem_nil _, ?_⟩
        simpa using hfront.symm
      | cons x front =>
        obtain ⟨rfl, -⟩ := List.cons.inj hrest
        have hsaved : ⟨.openStream r, .error e⟩ ∈ looks ++ saves := hfront ▸ by simp
        obtain hmem | hmem := List.mem_append.1 hsaved
        · exact absurd hstopped (hlooks.not_stopped _ hmem)
        · exact absurd hstopped (hsaves.not_stopped _ hmem)
  | unheld hlooks hsaves hrun e' =>
    obtain hmem | hmem := List.mem_append.1 hmem
    · exact absurd hstopped (Sending.opened_not_stopped hlooks hsaves hrun _ hmem)
    · cases List.mem_singleton.1 hmem
  | answered hlooks hsaves hrun =>
    obtain hmem | hmem := List.mem_append.1 hmem
    · exact absurd hstopped (Sending.opened_not_stopped hlooks hsaves hrun _ hmem)
    · cases List.mem_singleton.1 hmem

variable {default : String} {request : Http.Request} {part : Option (List Char)}

lemma beside_cancelAt (w : World) (cancelAt : Option Nat) : w.Beside { w with cancelAt } :=
  beside_of_eq rfl rfl rfl rfl (Nat.le_refl _)

/-- Where a response does not come the message was saved, and the stream did not open. -/
lemma posted_lost (h : w.Balanced w.doomed none accounts deleted) (hposts : request.Posts part)
    (hcutoff : w.cutoff = none) (hserve : w.serve default request = (none, w'))
    (hw' : w'.stamps.Distinct) :
    w'.Balanced w'.doomed none
      (accounts ++ (Account.ofPost (w.served default request) none).toList) deleted := by
  obtain ⟨c, w₁, hreplied, hlost, hran⟩ := serve_lost (respond_post hposts) hserve
  have hcutoff₁ : w₁.cutoff = none := (replied_asks hreplied).alike.cutoff.trans hcutoff
  cases c with
  | stamp => cases hlost
  | chats c => exact absurd hcutoff₁ (askChats_lost hlost)
  | agents c => exact absurd hcutoff₁ (askAgents_lost hlost)
  | invoke r => exact absurd hcutoff₁ (askModel_lost hlost)
  | openStream r =>
    obtain ⟨rest, out, hout⟩ := hran (.error .cancelled)
    obtain ⟨hlog, -⟩ | ⟨id, s, -, -, hsends⟩ := Endpoint.ran_postMessage hout
    · simp at hlog
    · obtain ⟨looks, saves, asks, found, turn, hlooks, hsaves, hasks, hlog⟩ :=
        sends_openStream hsends
      have hbalanced := h.lapse (beside_cancelAt w none).lapse
      have hlapse := answer_lapse (.inl rfl) hlost
      obtain ⟨sent, hsent, hplaced, -, -, hasked⟩ :=
        hbalanced.asked hlooks hsaves hasks (hlog ▸ hreplied) (hlapse.steady.distinct hw')
      rw [ofPost_unanswered (hlog ▸ hsent) (hlog ▸ hplaced), Option.toList_some, hlog]
      exact hasked.lapse hlapse

/-- A request to post a message adds its account. -/
theorem posted {response : Option Http.Response} (h : w.Balanced w.doomed none accounts deleted)
    (hposts : request.Posts part) (hcutoff : w.cutoff = none)
    (hserve : w.serve default request = (response, w'))
    (hdeletes : ∀ id reply, ⟨.chats (.delete id), reply⟩ ∈ w.served default request →
      reply = .ok true) (hw' : w'.stamps.Distinct) :
    w'.Balanced w'.doomed none
      (accounts ++ (Account.ofPost (w.served default request) response).toList) deleted := by
  cases response with
  | none => exact h.posted_lost hposts hcutoff hserve hw'
  | some response =>
    have hbalanced := h.lapse (beside_cancelAt w none).lapse
    obtain ⟨out, hran, hreplied, rfl⟩ := serve_post hposts hserve
    obtain ⟨hlog, -⟩ | ⟨id, s, -, -, hsends⟩ := Endpoint.ran_postMessage hran
    · rw [hlog] at hreplied ⊢
      obtain rfl := Task.replied_nil_iff.1 hreplied
      rw [ofPost_eq_none rfl, Option.toList_none, List.append_nil]
      exact hbalanced
    · exact hbalanced.sends hsends hreplied hdeletes hw'

lemma told_delete {id : Id} {reply : Except StoreError Bool}
    (h : w.Balanced w.doomed none accounts deleted)
    (hdelete : answer (.chats (.delete id)) w = (some reply, w')) :
    w'.Balanced w'.doomed none accounts
      (deleted ++ [⟨.chats (.delete id), reply⟩].filterMap Asked.erased?) := by
  have hundone (hreply : reply ≠ .ok true) :
      w'.Balanced w'.doomed none accounts (deleted ++ []) := by
    rw [List.append_nil]
    exact h.lapse (answer_beside hdelete fun _ _ _ hcarried => hcarried.undeleted hreply)
  cases reply with
  | error e => exact hundone nofun
  | ok found =>
    cases found with
    | false => exact hundone nofun
    | true =>
      obtain ⟨w₀, hlapse, hperform⟩ := answer_performed hdelete (by simp [ChatCall.absent?])
      rw [performChat_doomed hperform]
      refine (h.lapse hlapse).erased hperform (.inl rfl) fun a _ hgone => ?_
      exact List.mem_append.2 (hgone.imp_right fun heq => List.mem_singleton.2 heq)

/-- A request to delete a chat leaves it out of the books if it was deleted. -/
theorem removed {part : List Char} {response : Option Http.Response}
    (h : w.Balanced w.doomed none accounts deleted) (hdeletes : request.Deletes part)
    (hserve : w.serve default request = (response, w')) :
    w'.Balanced w'.doomed none accounts
      (deleted ++ (w.served default request).filterMap Asked.erased?) := by
  have hbalanced := h.lapse (beside_cancelAt w none).lapse
  cases response with
  | none =>
    obtain ⟨c, w₁, hreplied, hlost, hran⟩ := serve_lost (respond_delete hdeletes) hserve
    obtain ⟨reply⟩ := Task.reply_nonempty c
    obtain ⟨rest, out, hout⟩ := hran reply
    have hlog : w.served default request = [] := by
      obtain hlog | ⟨id, reply, hlog⟩ := Endpoint.ran_deleteChat hout
      · simp at hlog
      · exact (List.append_eq_singleton_iff.1 hlog).elim And.left fun hlog => by simp at hlog
    rw [hlog] at hreplied ⊢
    obtain rfl := Task.replied_nil_iff.1 hreplied
    rw [List.filterMap_nil, List.append_nil]
    exact hbalanced.lapse (answer_lapse (.inl rfl) hlost)
  | some response =>
    obtain ⟨out, hout, hreplied, -⟩ := serve_handled (respond_delete hdeletes) hserve
    obtain hlog | ⟨id, reply, hlog⟩ := Endpoint.ran_deleteChat hout
    · rw [hlog] at hreplied ⊢
      obtain rfl := Task.replied_nil_iff.1 hreplied
      rw [List.filterMap_nil, List.append_nil]
      exact hbalanced
    · rw [hlog] at hreplied ⊢
      exact hbalanced.told_delete (Task.replied_singleton_iff.1 hreplied)

end Balanced

end World

end Parley
