import Parley.Client.ChatClient
import Parley.Proofs.Agent.WellFormed
import Parley.Proofs.Http.Form
import Parley.Proofs.Server.Saving
import Parley.Proofs.Server.Serving

/-!
# Clients and servers agree

What a client posts is read by a server as it was meant, and what a server answers is accepted by
the client as what was stored (`ChatClient.agrees`).
-/

namespace Parley

lemma Text.trim_of_plain {s : String} (h : ∀ c ∈ s.toList, ¬isBlank c) : trim s = s := by
  rw [trim, Chars.trim_of_plain h, String.ofList_toList]

namespace Id

variable (i : Id)

lemma trimmed?_text : Text.trimmed? i.text = some i.text := by
  have htrim : Text.trim i.text = i.text := Text.trim_of_plain fun c hc => (i.text_plain hc).1
  have hne : i.text ≠ "" := by
    intro h
    have hlength := i.length_text
    rw [h] at hlength
    cases hlength
  exact Text.trimmed?_eq_some_iff.2 ⟨htrim.symm, hne⟩

/-- A part of a path that is an identifier as text stands for the identifier. -/
lemma pathId_text : pathId i.text.toList = .ok i := by
  have hdecode {bs : List UInt8} (h : 37 ∉ bs) : Http.Percent.decode bs = bs := by
    induction bs with
    | nil => rfl
    | cons b bs ih =>
      rw [List.mem_cons, not_or] at h
      rw [Http.Percent.decode_cons (Ne.symm h.1), ih h.2]
  have hbytes : 37 ∉ Text.Utf8.encode i.text.toList := by
    intro h
    obtain ⟨c, hc, hbyte⟩ := List.mem_flatMap.1 h
    obtain ⟨-, hsmall, -, hpercent⟩ := i.text_plain hc
    have hnat := Text.Utf8.toNat_byte (n := c.toNat) (by omega)
    rw [Text.Utf8.encodeChar_of_lt (by omega) hnat.symm, List.mem_singleton] at hbyte
    rw [← hbyte] at hnat
    exact hpercent (Char.toNat_inj.1 hnat.symm)
  have hread : Text.Utf8.toString? (Text.Utf8.encode i.text.toList) = some i.text := by
    rw [Text.Utf8.toString?_encode, String.ofList_toList]
  rw [pathId, hdecode hbytes, hread, Option.bind_some, parse?_text]

end Id

namespace ChatClient

variable (s : Sending)

lemma lookup_fields : (fields s).lookup "intent" = some Sending.intent ∧
    (fields s).lookup "message" = some s.message ∧ (fields s).lookup "prompt" = s.prompt ∧
    (fields s).lookup "agent" = s.agent.map Id.text := by
  obtain ⟨message, _ | prompt, _ | agent⟩ := s <;> exact ⟨rfl, rfl, rfl, rfl⟩

lemma isSingle_fields : Http.Form.isSingle Sending.fieldNames (fields s) := by
  obtain ⟨message, _ | prompt, _ | agent⟩ := s <;> rfl

lemma agentOf_text (agent : Option Id) : Sending.agentOf (agent.map Id.text) = .ok agent := by
  cases agent with
  | none => rfl
  | some id =>
    rw [Sending.agentOf, Option.map_some, Option.bind_some, id.trimmed?_text]
    dsimp only
    rw [id.parse?_text]

/-- A message is read as what it says, without blanks around it, unless it is blank. -/
theorem ofFields_fields : Sending.ofFields (fields s) =
    if Text.blank s.message then .error (.invalidField "message" "Message is required")
    else .ok ⟨Text.trim s.message, s.prompt.bind Text.trimmed?, s.agent⟩ := by
  obtain ⟨hintent, hmessage, hprompt, hagent⟩ := lookup_fields s
  have htrim : (some Sending.intent).map Text.trim = some Sending.intent := by decide
  rw [Sending.ofFields, hintent, hmessage, hprompt, hagent, agentOf_text, if_neg (not_not.2 htrim),
    Option.bind_some, Text.trimmed?]
  split_ifs <;> rfl

end ChatClient

/-- A request comes to a server as it was sent. -/
structure Http.Post.Arrives (p : Http.Post) (base : String) (r : Http.Request) : Prop where
  method : r.method = "POST"
  path : p.url = base ++ String.ofList r.path
  headers : ∀ name value, p.headers.lookup name = some value → r.headers.lookup name = some value
  body : r.body = Text.Utf8.ofString p.body

/-- The head of a response comes to a client as it was sent. -/
structure Http.Response.Arrives (response : Http.Response) (r : Http.Received) : Prop where
  status : r.status = response.status
  headers : ∀ name value, response.headers.lookup name = some value →
    r.headers.lookup name = some value

namespace ChatClient

open Handler

variable {c : ChatClient} {chat : Option Id} {s : Sending} {request : Http.Request}

lemma ofPath?_chat (id : Id) :
    Route.ofPath? ("/api/chat/".toList ++ id.text.toList) = some (.chat id.text.toList) := by
  have hlength : ("/api/chat/".toList ++ id.text.toList).length = 46 := by
    rw [List.length_append, id.length_text]
    rfl
  have hne (path : String) (h : path.toList.length ≠ 46) :
      "/api/chat/".toList ++ id.text.toList ≠ path.toList :=
    fun heq => h (heq ▸ hlength)
  have hfront : "/api/chat/".toList.isPrefixOf ("/api/chat/".toList ++ id.text.toList) :=
    List.isPrefixOf_iff_prefix.2 (List.prefix_append _ _)
  have hpart : Route.part? id.text.toList = some id.text.toList := by
    have hempty : id.text.toList ≠ [] := List.ne_nil_of_length_pos (by rw [id.length_text]; decide)
    have hslash : '/' ∉ id.text.toList := fun h => (id.text_plain h).2.2.1 rfl
    simp [Route.part?, hempty, hslash]
  have hbelow : Route.below? "/api/chat/" ("/api/chat/".toList ++ id.text.toList) =
      some id.text.toList := by
    rw [Route.below?, if_pos hfront, List.drop_left, hpart]
  rw [Route.ofPath?, if_neg (hne "/health" (by decide)), if_neg (hne "/api/chat" (by decide)),
    if_neg (hne "/api/chats" (by decide)), if_neg (hne "/api/agents" (by decide)),
    if_neg (hne "/api/settings" (by decide)), hbelow]

/-- A message goes to the chat that it is for. -/
lemma posts_of_arrives (h : (c.post chat s).Arrives (trimSlashes c.baseUrl) request) :
    request.Posts (chat.map (·.text.toList)) := by
  have hpath (path : String) (hurl : c.url chat = trimSlashes c.baseUrl ++ path) :
      request.path = path.toList := by
    have heq := h.path
    rw [post, hurl, String.append_right_inj] at heq
    rw [heq, String.toList_ofList]
  refine ⟨h.method, ?_⟩
  cases chat with
  | none =>
    rw [hpath "/api/chat" rfl]
    decide
  | some id =>
    rw [hpath ("/api/chat/" ++ id.text) (String.append_assoc ..), String.toList_append]
    exact ofPath?_chat id

lemma mapM_pathId (chat : Option Id) : (chat.map (·.text.toList)).mapM pathId = .ok chat := by
  cases chat with
  | none => rfl
  | some id =>
    rw [Option.map_some, Option.mapM_some, id.pathId_text]
    rfl

lemma formOf_of_arrives {base : String} (h : (c.post chat s).Arrives base request) :
    formOf Sending.fieldNames request =
      if bodyLimit < request.body.length then .error .tooLarge else .ok (fields s) := by
  have hheader : request.headers.lookup "content-type" = some Http.Request.formType :=
    h.headers _ _ rfl
  have hform : request.hasForm = true := by
    rw [Http.Request.hasForm, Http.Request.header?, hheader]
    decide
  have hfields : Http.Form.decode request.body = fields s := by
    rw [h.body, post, Http.Form.decode_encode]
  rw [formOf, hform, hfields]
  dsimp only
  rw [isSingle_fields]
  rfl

/-- What a server does for a message is to send it, trimmed, unless it is blank or too long. -/
theorem respond_of_arrives (default : String)
    (h : (c.post chat s).Arrives (trimSlashes c.baseUrl) request) :
    respond default request = pure (complete request
      (if bodyLimit < request.body.length then refuse .tooLarge
      else if Text.blank s.message then refuse (.invalidField "message" "Message is required")
      else Sending.send default chat
        ⟨Text.trim s.message, s.prompt.bind Text.trimmed?, s.agent⟩)) := by
  have hread : Endpoint.postMessage default (chat.map (·.text.toList)) request =
      Handler.ofExcept (if bodyLimit < request.body.length then .error Refusal.tooLarge
        else .ok (fields s)) >>= fun fields =>
      Handler.ofExcept (Sending.ofFields fields) >>= fun s => s.send default chat := by
    rw [Endpoint.postMessage, mapM_pathId, formOf_of_arrives h]
    rfl
  rw [respond_post (posts_of_arrives h), hread]
  by_cases hlong : bodyLimit < request.body.length
  · rw [if_pos hlong, if_pos hlong]
    rfl
  · rw [if_neg hlong, if_neg hlong]
    have hfields : Handler.ofExcept (.ok (fields s)) >>= (fun fields =>
        Handler.ofExcept (Sending.ofFields fields) >>= fun s => s.send default chat) =
        Handler.ofExcept (Sending.ofFields (fields s)) >>= fun s => s.send default chat := rfl
    rw [hfields, ofFields_fields]
    by_cases hblank : Text.blank s.message
    · rw [if_pos hblank, if_pos hblank]
      rfl
    · rw [if_neg hblank, if_neg hblank]
      rfl

variable {response : Http.Response} {received : Http.Received}

lemma header?_of_arrives (h : response.Arrives received) {name value : String}
    (hvalue : response.headers.lookup name = some value)
    (hplain : ∀ c ∈ value.toList, c.toNat < 127) : received.header? name = some value := by
  rw [Http.Received.header?, h.headers name value hvalue, Option.filter_some, if_pos]
  simpa using hplain

lemma idHeader_of_arrives (h : response.Arrives received) {name : String} {id : Id}
    (hid : response.headers.lookup name = some id.text) : idHeader received name = .ok id := by
  rw [idHeader, header?_of_arrives h hid fun c hc => (id.text_plain hc).2.1]
  dsimp only
  rw [id.parse?_text]

/-- A response that relays a reply is accepted as what it says. -/
theorem accept_response {reply : Id} {turn : Turn} {stream : Stream} (chat : Option Id)
    (h : (openToAll (Sending.response reply turn stream)).Arrives received) :
    accept chat (some received) =
      .ok ⟨reply, turn.chatId, turn.userMessageId, turn.redirect?, body received⟩ := by
  have hlookup : (openToAll (Sending.response reply turn stream)).headers.lookup "x-redirect" =
      some (turn.redirect?.getD "") := rfl
  have hredirect : (received.header? "x-redirect").filter (· ≠ "") = turn.redirect? := by
    unfold Turn.redirect? at hlookup ⊢
    split_ifs at hlookup ⊢
    · have hplain : ∀ c ∈ ("/chat/" ++ turn.chatId.text).toList, c.toNat < 127 := by
        rw [String.toList_append]
        refine List.forall_mem_append.2 ⟨by simp, fun c hc => ?_⟩
        exact (turn.chatId.text_plain hc).2.1
      rw [header?_of_arrives h hlookup hplain, Option.filter_some, if_pos (by simp)]
      rfl
    · rw [header?_of_arrives h hlookup (List.forall_mem_nil _)]
      rfl
  have hstatus : received.status = 200 := h.status
  have hsent : sent received =
      .ok ⟨reply, turn.chatId, turn.userMessageId, turn.redirect?, body received⟩ := by
    rw [sent, idHeader_of_arrives h rfl, idHeader_of_arrives h rfl, idHeader_of_arrives h rfl,
      hredirect]
    rfl
  have hsuccess : received.isSuccess = true := by
    rw [Http.Received.isSuccess, hstatus]
    rfl
  rw [accept, hstatus, if_neg (by decide), if_pos hsuccess, hsent]
  rfl

end ChatClient

namespace Sending

variable {s : Sending} {id : Option Id} {found : Option Chat} {turn : Turn} {log : List Asked}

/-- What the calls that save a message are told is what the turn says. -/
lemma Saves.told (h : Saves s found log turn) : ∃ sent,
    log.findSome? Asked.sent? = some sent ∧ log.findSome? Asked.placed? = none ∧
      log.any Asked.creates = found.isNone ∧ turn.createdChat = found.isNone ∧
      turn.userMessageId = sent.id ∧
      ⟨.chats (.addMessage turn.chatId .human s.message), .ok sent⟩ ∈ log := by
  cases h with
  | there chat sent => exact ⟨sent, rfl, rfl, rfl, rfl, rfl, by simp [Turn.new]⟩
  | new stamp made sent => exact ⟨sent, rfl, rfl, rfl, rfl, rfl, by simp [Turn.new]⟩

/-- A response names what its calls were told to be saved, and says whether a chat was made. -/
lemma Sends.told {response : Http.Response} (h : Sends s id log (.ok response)) :
    ∃ turn stream sent reply, response = Sending.response (Message.id reply) turn stream ∧
      log.findSome? Asked.sent? = some sent ∧ log.findSome? Asked.placed? = some reply ∧
      log.any Asked.creates = id.isNone ∧ turn.createdChat = id.isNone ∧
      turn.userMessageId = sent.id ∧
      ⟨.chats (.addMessage turn.chatId .human s.message), .ok sent⟩ ∈ log ∧
      ⟨.chats (.addMessage turn.chatId .ai ""), .ok reply⟩ ∈ log := by
  cases h with
  | @answered looks saves asks found turn turn' plan c c' stream reply hlooks hsaves hrun hturn =>
    obtain ⟨sent, hsent, hplaced, hcreates, hcreated, hid, hmem⟩ := hsaves.told
    obtain ⟨hlooks₁, hlooks₂, hlooks₃⟩ := World.Balanced.unwritten_quiet_all hlooks.unwritten
    obtain ⟨hasks₁, hasks₂, hasks₃⟩ := World.Balanced.unwritten_quiet_all (run_unwritten hrun)
    have hfound : found.isNone = id.isNone := by cases hlooks <;> rfl
    have hturn' := placeholderCreated_eq hturn
    refine ⟨turn', stream, sent, reply, rfl, ?_, ?_, ?_, ?_, ?_, ?_, ?_⟩
    · simp [List.findSome?_append, hlooks₁, hsent]
    · simp [List.findSome?_append, hlooks₂, hplaced, hasks₂, Asked.placed?]
    · simp [List.any_append, hlooks₃, hcreates, hasks₃, hfound, Asked.creates]
    · rw [hturn', hcreated, hfound]
    · rw [hturn', hid]
    · rw [hturn']
      simp [hmem]
    · rw [hturn']
      simp

/-- In an idle world what was saved is there, and nothing else was changed. -/
lemma Leaves.stored {l l' : Ledger} {response : Http.Response}
    (h : Leaves s id l log (.ok response) l') : ∃ turn stream sent reply,
      response = Sending.response (Message.id reply) turn stream ∧ turn.userMessageId = sent.id ∧
        Posted s l id turn.chatId [sent, reply] l' := by
  cases h with
  | answered hlog hposted hsent hreply hturn stream =>
    obtain ⟨rfl, huser, -⟩ := hturn
    exact ⟨_, stream, _, _, rfl, huser, hposted⟩

end Sending

namespace World

variable {w w' : World} {log : List Asked}

/-- A message that a store saved is in the chat it was for. -/
lemma replied_added {chat : Id} {sender : Sender} {content : String} {m : Message}
    (h : Task.Replied answer w log w')
    (hmem : ⟨.chats (.addMessage chat sender content), .ok m⟩ ∈ log) : m.chatId = chat := by
  induction h with
  | none => cases hmem
  | next hx _ ih =>
    obtain rfl | hmem := List.mem_cons.1 hmem
    · obtain ⟨w₁, -, hperform⟩ := answer_performed hx (Option.some_ne_none _).symm
      exact (performChat_carried hperform).addMessage.1 ▸ rfl
    · exact ih hmem

end World

namespace ChatClient

variable {w w' : World} {default : String} {request : Http.Request} {part : Option (List Char)}
  {chat : Option Id} {response : Http.Response} {received : Http.Received}

lemma status_ne_ok (r : Refusal) : r.response.status ≠ 200 := by
  cases r <;> simp [Refusal.response, Http.Response.json, Http.Response.text]

/-- What a client learns of a message that was taken is what was stored, and whether a chat was made
for it. -/
structure Learns (w : World) (log : List Asked) (request : Http.Request) (chat : Option Id)
    (w' : World) (m : SentMessage) : Prop where
  told : ∃ sent reply, log.findSome? Asked.sent? = some sent ∧
    log.findSome? Asked.placed? = some reply ∧ m.messageId = sent.id ∧ m.replyId = reply.id ∧
    m.chatId = sent.chatId ∧ m.chatId = reply.chatId
  created : log.any Asked.creates = chat.isNone
  redirect : m.redirect = if log.any Asked.creates then some ("/chat/" ++ m.chatId.text) else none
  stored : w.Idle → ∃ s ms, Sending.Of request s ∧
    s.Posted w.chats.memory chat m.chatId ms w'.chats.memory ∧
    ms.map (·.id) = [m.messageId, m.replyId]

/-- A client accepts the answer that a message was taken. -/
theorem accepts_of_serve (hposts : request.Posts part) (hchat : part.mapM pathId = .ok chat)
    (hserve : w.serve default request = (some response, w')) (hstatus : response.status = 200)
    (harrives : response.Arrives received) : ∃ m, accept chat (some received) = .ok m ∧
      Learns w (w.served default request) request chat w' m := by
  obtain ⟨out, hran, hreplied, rfl⟩ := World.serve_post hposts hserve
  cases out with
  | error r => exact absurd hstatus (status_ne_ok r)
  | ok response =>
    obtain ⟨-, r, hr, -⟩ | ⟨id, s, hid, hof, hsends⟩ := Endpoint.ran_postMessage hran
    · cases hr
    rw [hchat] at hid
    obtain rfl := Except.ok.inj hid
    obtain ⟨turn, stream, sent, reply, rfl, hsent, hplaced, hcreates, hcreated, huser, hmem,
      hmem'⟩ := hsends.told
    have haccept := accept_response chat harrives
    refine ⟨_, haccept, ⟨?_, hcreates, ?_, fun hidle => ?_⟩⟩
    · exact ⟨sent, reply, hsent, hplaced, huser, rfl, (World.replied_added hreplied hmem).symm,
        (World.replied_added hreplied hmem').symm⟩
    · rw [Turn.redirect?, hcreated, hcreates]
    · have hleaves := hsends.leaves (w := { w with cancelAt := none }) hidle hreplied
      obtain ⟨turn', stream', sent', reply', hresponse, huser', hposted⟩ := hleaves.stored
      rw [hresponse] at harrives
      have hsame := (accept_response chat harrives).symm.trans haccept
      obtain ⟨hreply, hchatId, huser, -⟩ := SentMessage.mk.inj (Except.ok.inj hsame)
      refine ⟨s, [sent', reply'], hof, hchatId ▸ hposted, ?_⟩
      simp [← hreply, ← huser, huser']

/-- A client and a server agree on what is sent and on what was stored. The form of a message is
read as what it says, without the blanks around it, unless the message is blank; a server that gets
it sends that to the chat that the message is for, unless the form is too long to be read. Whatever
a message was posted with, a client accepts the answer that it was taken, learns the identifiers
that were stored, and is sent on to the chat if that was made for the message. -/
theorem agrees (c : ChatClient) (chat : Option Id) (s : Sending) :
    (Http.Form.decode (Text.Utf8.ofString (c.post chat s).body) = fields s ∧
      Http.Form.isSingle Sending.fieldNames (fields s)) ∧
    Sending.ofFields (fields s) =
      (if Text.blank s.message then .error (.invalidField "message" "Message is required")
      else .ok ⟨Text.trim s.message, s.prompt.bind Text.trimmed?, s.agent⟩) ∧
    (∀ default request, (c.post chat s).Arrives (trimSlashes c.baseUrl) request →
      respond default request = pure (complete request
        (if bodyLimit < request.body.length then Handler.refuse .tooLarge
        else if Text.blank s.message then
          Handler.refuse (.invalidField "message" "Message is required")
        else Sending.send default chat
          ⟨Text.trim s.message, s.prompt.bind Text.trimmed?, s.agent⟩))) ∧
    ∀ (w w' : World) default request part response received, request.Posts part →
      part.mapM pathId = .ok chat → w.serve default request = (some response, w') →
      response.status = 200 → response.Arrives received →
      ∃ m, accept chat (some received) = .ok m ∧
        Learns w (w.served default request) request chat w' m := by
  refine ⟨⟨Http.Form.decode_encode (fields s), isSingle_fields s⟩, ofFields_fields s, ?_, ?_⟩
  · exact fun default request h => respond_of_arrives default h
  · intro w w' default request part response received hposts hchat hserve hstatus harrives
    exact accepts_of_serve hposts hchat hserve hstatus harrives

/-- A first message with blanks, a separator and a letter that is not a Latin one. -/
theorem agrees_hello : ∃ (c : ChatClient) (s : Sending) (w w' : World) (request : Http.Request)
    (response : Http.Response) (received : Http.Received) (m : SentMessage),
    (c.post none s).Arrives (trimSlashes c.baseUrl) request ∧
      w.serve "" request = (some response, w') ∧ response.Arrives received ∧
      accept none (some received) = .ok m ∧ w.Idle ∧
      (w'.chats.memory.chats.map fun chat => (chat.id, chat.messages.map fun m => m.id)) =
        [(m.chatId, [m.messageId, m.replyId])] ∧
      m.redirect = some ("/chat/" ++ m.chatId.text) := by
  let c : ChatClient := ⟨"http://localhost:3000/"⟩
  let s : Sending := { message := " a & \u00e9 ", prompt := some " " }
  let w : World :=
    { model := ⟨fun _ _ => .atOnce (.ok ""), fun _ _ => .atOnce (.ok { items := [] })⟩
      stamps := ⟨fun n => ⟨.ofNat n, default⟩, 0⟩ }
  let request : Http.Request :=
    { method := "POST"
      path := "/api/chat".toList
      headers := [("content-type", Http.Request.formType)]
      body := Text.Utf8.ofString "intent=sendMessage&message=+a+%26+%C3%A9+&prompt=+" }
  have hposted : (c.post none s).Arrives (trimSlashes c.baseUrl) request :=
    { method := rfl
      path := by decide +kernel
      headers := fun _ _ h => h
      body := by decide +kernel }
  have hposts : request.Posts none := ⟨rfl, by decide +kernel⟩
  have hserve : w.serve "" request = ((w.serve "" request).1, (w.serve "" request).2) := rfl
  have hstatus : (w.serve "" request).1.map (·.status) = some 200 := by decide +kernel
  generalize (w.serve "" request).2 = w' at hserve
  obtain ⟨response, hresponse, hok⟩ := Option.map_eq_some_iff.1 hstatus
  rw [hresponse] at hserve
  let received : Http.Received := { status := response.status, headers := response.headers }
  have harrives : response.Arrives received := ⟨rfl, fun _ _ h => h⟩
  obtain ⟨-, -, -, haccepts⟩ := agrees c none s
  obtain ⟨m, haccept, hlearns⟩ :=
    haccepts w w' "" request none response received hposts rfl hserve hok harrives
  refine ⟨c, s, w, w', request, response, received, m, hposted, hserve, harrives, haccept, rfl, ?_,
    ?_⟩
  · obtain ⟨s', ms, -, hstored, hids⟩ := hlearns.stored rfl
    rw [← hids]
    generalize m.chatId = chat, w'.chats.memory = l at hstored ⊢
    cases hstored
    rfl
  · rw [hlearns.redirect, hlearns.created]
    rfl

end ChatClient

end Parley
