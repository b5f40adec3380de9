import Parley.Proofs.Agent.Saved
import Parley.Proofs.Agent.Template
import Parley.Proofs.Server.Agents
import Parley.Proofs.Server.Saving

/-!
# Messages without an agent

Where neither the chat nor the form names an agent, a message that is saved is put to the model as
it stands, once, under the system prompt that prevails (`Sending.Prevails`) and after the messages
that the chat had before. What may be asked for when is a protocol (`Sending.asking`), and what the
model has been asked is read off how far the work has got (`Sending.Comes`). It is asked unless the
clock does not get from the saving to the deadline for the reply (`World.serve_plain_asked`).
-/

namespace Parley

open Handler

/-- No agent is named by a chat that was found. -/
def Asked.agentless : Asked → Bool
  | ⟨.chats (.get _), .ok (some (chat : Chat))⟩ => chat.settings.agentId.isNone
  | _ => true

namespace Sending

/-! ### The prompt that prevails -/

/-- The prompt that counts is the first that is not blank, without the blanks around it, or else
the default as it stands. -/
inductive Prevails (default : String) : List (Option String) → String → Prop
  | default : Prevails default [] default
  | first {p : String} (hp : ¬Text.blank p) (rest : List (Option String)) :
    Prevails default (some p :: rest) (Text.trim p)
  | blank {p : String} {rest : List (Option String)} {chosen : String} (hp : Text.blank p)
    (h : Prevails default rest chosen) : Prevails default (some p :: rest) chosen
  | unset {rest : List (Option String)} {chosen : String} (h : Prevails default rest chosen) :
    Prevails default (none :: rest) chosen

lemma systemPrompt_cons (p : Option String) (prompts : List (Option String)) (default : String) :
    systemPrompt (p :: prompts) default =
      (p.bind Text.trimmed?).getD (systemPrompt prompts default) := by
  rw [systemPrompt, List.findSome?_cons]
  cases p.bind Text.trimmed? <;> rfl

theorem prevails_iff {default : String} {prompts : List (Option String)} {chosen : String} :
    Prevails default prompts chosen ↔ chosen = systemPrompt prompts default := by
  constructor
  · intro h
    induction h with
    | default => rfl
    | first hp rest => rw [systemPrompt_cons, Option.bind_some, Text.trimmed?, if_neg hp]; rfl
    | blank hp _ ih => rwa [systemPrompt_cons, Option.bind_some, Text.trimmed?, if_pos hp]
    | unset _ ih => rwa [systemPrompt_cons]
  · rintro rfl
    induction prompts with
    | nil => exact .default
    | cons p prompts ih =>
      rw [systemPrompt_cons]
      cases p with
      | none => exact .unset ih
      | some p =>
        rw [Option.bind_some, Text.trimmed?]
        split_ifs with hp
        · exact .blank hp ih
        · exact .first hp prompts

/-- It makes no difference that the prompt of a form was trimmed when the form was read. -/
lemma systemPrompt_trimmed (p : Option String) (prompts : List (Option String)) (default : String) :
    systemPrompt (p.bind Text.trimmed? :: prompts) default =
      systemPrompt (p :: prompts) default := by
  rw [systemPrompt_cons, systemPrompt_cons]
  cases htrimmed : p.bind Text.trimmed? with
  | none => rfl
  | some q =>
    obtain ⟨raw, -, hraw⟩ := Option.bind_eq_some_iff.1 htrimmed
    rw [Option.bind_some, Text.trimmed?_trimmed hraw]

/-! ### What may be asked for when -/

/-- What the model is asked for a message if there is no agent. -/
def plainRequest (s : Sending) (default : String) (chat : Option Chat) (shared : GlobalSettings) :
    Request :=
  { systemPrompt := systemPrompt [s.prompt, chat.bind (·.settings.prompt), shared.prompt] default
    history := ((chat.map (·.messages)).getD []).map fun m => ⟨m.sender, m.content⟩
    humanPrompt := s.message }

/-- How far the work for a message has got. -/
inductive Asking
  | seeking
  | found (chat : Chat)
  | ready (chat : Option Chat) (shared : GlobalSettings)
  | saved (chat : Option Chat) (shared : GlobalSettings)
  | asked (chat : Option Chat) (shared : GlobalSettings)
  /-- The chat or the settings could not be read. -/
  | stopped

/-- Nothing is asked of the model before the message is saved, and nothing comes before that
then. -/
def asking (s : Sending) (default : String) (id : Option Id) : Protocol Asking where
  may
    | .seeking, c => c = id.elim (.chats .settings) fun id => .chats (.get id)
    | .found _, c => c = .chats .settings
    | .ready _ _, c => c = .stamp ∨ ∃ q, c = .chats q
    | .saved chat shared, c => c = .openStream (s.plainRequest default chat shared)
    | .asked _ _, c => ∃ id, c = .chats (.addMessage id .ai "")
    | .stopped, _ => False
  hears _ c reply := Asked.agentless ⟨c, reply⟩
  next
    | .seeking, .chats (.get _), .ok (some (chat : Chat)) => .found chat
    | .seeking, .chats .settings, .ok shared => .ready none shared
    | .seeking, _, _ => .stopped
    | .found chat, .chats .settings, .ok shared => .ready (some chat) shared
    | .found _, _, _ => .stopped
    | .ready chat shared, .chats (.addMessage _ .human _), .ok _ => .saved chat shared
    | .saved chat shared, _, _ => .asked chat shared
    | d, _, _ => d

/-- The model is asked as soon as a message is saved. -/
def Asking.Settled : Asking → Prop
  | saved _ _ => False
  | _ => True

/-- A message is saved, or it is not. -/
def Asking.Saves (chat : Option Chat) (shared : GlobalSettings) (d : Asking) :
    Except Refusal Turn → Prop
  | .ok _ => d = saved chat shared
  | .error _ => d.Settled

variable {s : Sending} {default : String} {id : Option Id} {chat : Option Chat}
  {shared : GlobalSettings}

lemma saveIn_asks (chat : Chat) :
    (s.saveIn chat).Keeps (s.asking default id) (Asking.Saves (some chat) shared)
      (.ready (some chat) shared) := by
  refine keeps_bind_iff.2 (keeps_chats_iff.2 ⟨.inr ⟨_, rfl⟩, fun reply _ => ?_⟩)
  cases reply with
  | error e => exact trivial
  | ok sent => exact rfl

lemma saveInNew_asks (agent : Option Id) :
    (s.saveInNew agent).Keeps (s.asking default id) (Asking.Saves none shared)
      (.ready none shared) := by
  refine keeps_bind_iff.2 (keeps_stamp_iff.2 ⟨.inl rfl, fun stamp _ => ?_⟩)
  refine keeps_bind_iff.2 (keeps_chats_iff.2 ⟨.inr ⟨_, rfl⟩, fun reply _ => ?_⟩)
  cases reply with
  | error e => exact trivial
  | ok made =>
    refine keeps_call_bind_iff.2 ⟨.inr ⟨_, rfl⟩, fun reply _ => ?_⟩
    cases reply with
    | ok sent => exact rfl
    | error e => exact keeps_call_bind_iff.2 ⟨.inr ⟨_, rfl⟩, fun _ _ => trivial⟩

lemma plainRequest_eq (s : Sending) (default : String) (chat : Option Chat)
    (shared : GlobalSettings) : s.plainRequest default chat shared =
      ⟨systemPrompt [s.prompt, chat.bind (·.settings.prompt), shared.prompt] default,
        (Context.ofHistory s.message ((chat.map Chat.history).getD [])).history,
        (Context.ofHistory s.message ((chat.map Chat.history).getD [])).prompt⟩ := by
  cases chat <;> simp [plainRequest, Context.ofHistory, Context.new, Context.prompt, Context.value,
    Context.get?, Chat.history]

lemma answer_asks (s : Sending) (default : String) (chat : Option Chat) (shared : GlobalSettings) :
    (answer
      (.default (systemPrompt [s.prompt, chat.bind (·.settings.prompt), shared.prompt] default))
      (.ofHistory s.message ((chat.map Chat.history).getD []))).Keeps (s.asking default id)
        (fun d _ => d = .asked chat shared) (.saved chat shared) := by
  refine keeps_bind_iff.2 (keeps_lift_iff.2 ?_)
  rw [Plan.default_run, ← plainRequest_eq]
  refine ⟨rfl, fun reply _ => ?_⟩
  cases reply <;> rfl

lemma holdPlace_asks (turn : Turn) : (holdPlace turn).Keeps (s.asking default id)
    (fun d _ => d = .asked chat shared) (.asked chat shared) := by
  refine keeps_bind_iff.2 (keeps_chats_iff.2 ⟨⟨_, rfl⟩, fun reply _ => ?_⟩)
  cases reply with
  | error e => rfl
  | ok reply =>
    simp only [told_ok, andThen]
    split <;> rfl

/-- Once a message is saved it is put to the model, and then a place is held for the reply. -/
lemma asks_of_saves {save : Handler Turn}
    (h : save.Keeps (s.asking default id) (Asking.Saves chat shared) (.ready chat shared)) :
    Keeps (s.asking default id) (fun d _ => d.Settled) (.ready chat shared) (do
      let turn ← save
      let stream ← answer
        (.default (systemPrompt [s.prompt, chat.bind (·.settings.prompt), shared.prompt] default))
        (.ofHistory s.message ((chat.map Chat.history).getD []))
      let held ← holdPlace turn
      return response held.1 held.2 stream) := by
  refine keeps_bind_iff.2 (h.mono ?_)
  rintro d (r | turn) hd
  · exact hd
  obtain rfl : d = .saved chat shared := hd
  refine keeps_bind_iff.2 ((answer_asks s default chat shared).mono ?_)
  rintro _ (r | stream) rfl
  · exact trivial
  refine keeps_bind_iff.2 ((holdPlace_asks turn).mono ?_)
  rintro _ (r | held) rfl
  · exact trivial
  · exact trivial

/-- Without an agent, the work for a message goes on as it may. -/
theorem send_asks (hagent : s.agent = none) :
    (s.send default id).Keeps (s.asking default id) (fun d _ => d.Settled) .seeking := by
  cases id with
  | none =>
    refine keeps_bind_iff.2 (keeps_bind_iff.2 (keeps_chats_iff.2 ⟨rfl, fun reply _ => ?_⟩))
    cases reply with
    | error e => exact trivial
    | ok shared =>
      simp only [told_ok, andThen, Option.bind_none, Option.none_or, hagent]
      exact asks_of_saves (saveInNew_asks none)
  | some id =>
    refine keeps_bind_iff.2 (keeps_bind_iff.2 (keeps_chats_iff.2 ⟨rfl, fun reply hreply => ?_⟩))
    cases reply with
    | error e => exact trivial
    | ok found =>
      refine keeps_bind_iff.2 (keeps_orAbsent_iff.2 ?_)
      cases found with
      | none => exact trivial
      | some chat =>
        have hchat : chat.settings.agentId = none := Option.isNone_iff_eq_none.1 hreply
        refine keeps_bind_iff.2 (keeps_chats_iff.2 ⟨rfl, fun reply _ => ?_⟩)
        cases reply with
        | error e => exact trivial
        | ok shared =>
          simp only [told_ok, andThen, Option.bind_some, hchat, Option.none_or, hagent]
          exact asks_of_saves (saveIn_asks chat)

/-! ### What was asked so far -/

/-- The chat and the settings for all chats are looked up first; a new chat is not there yet. -/
inductive Looked : Option Id → Option Chat → GlobalSettings → List Asked → Prop
  | new (shared : GlobalSettings) (rest : List Asked) :
    Looked none none shared (⟨.chats .settings, .ok shared⟩ :: rest)
  | there (id : Id) (chat : Chat) (shared : GlobalSettings) (rest : List Asked) :
    Looked (some id) (some chat) shared
      (⟨.chats (.get id), .ok (some chat)⟩ :: ⟨.chats .settings, .ok shared⟩ :: rest)

namespace Asking

/-- What the model was asked. -/
def requests (s : Sending) (default : String) : Asking → List Request
  | asked chat shared => [s.plainRequest default chat shared]
  | _ => []

/-- What was looked up, and where the model was asked, once the message was saved. -/
def Follows (s : Sending) (default : String) (id : Option Id) (log : List Asked) : Asking → Prop
  | seeking => log = []
  | found chat => ∃ i, id = some i ∧ log = [⟨.chats (.get i), .ok (some chat)⟩]
  | ready chat shared => Looked id chat shared log
  | saved chat shared => Looked id chat shared log ∧ (log.findSome? Asked.sent?).isSome
  | asked chat shared => Looked id chat shared log ∧ ∃ front reply rest,
      log = front ++ ⟨.openStream (s.plainRequest default chat shared), reply⟩ :: rest ∧
        (front.findSome? Asked.sent?).isSome
  | stopped => True

end Asking

/-- The message was saved. -/
def Asking.HasSaved : Asking → Prop
  | saved _ _ => True
  | asked _ _ => True
  | _ => False

/-- What was asked and told up to a point of the work. -/
structure Comes (s : Sending) (default : String) (id : Option Id) (log : List Asked) (d : Asking) :
    Prop where
  follows : d.Follows s default id log
  invoked : log.flatMap (·.call.invoked) = []
  streamed : log.flatMap (·.call.streamed) = d.requests s default
  sent : (log.findSome? Asked.sent?).isSome → d.HasSaved

variable {log : List Asked} {d d' : Asking} {c : Call} {reply : c.Reply}

lemma Looked.append (h : Looked id chat shared log) (more : List Asked) :
    Looked id chat shared (log ++ more) := by
  cases h with
  | new shared rest => exact .new shared (rest ++ more)
  | there id chat shared rest => exact .there id chat shared (rest ++ more)

/-- In an idle world it is the chat that is there, and the settings are as they are. -/
lemma Looked.idle {w w' : World} (h : Looked id chat shared log) (hidle : w.Idle)
    (hreplied : Task.Replied World.answer w log w') :
    chat = id.bind w.chats.memory.find? ∧ shared = w.chats.memory.settings := by
  have hsettings {w w' : World} {shared : GlobalSettings} (hidle : w.Idle)
      (h : World.answer (.chats .settings) w = (some (.ok shared), w')) :
      shared = w.chats.memory.settings := by
    obtain ⟨⟨stamp, hcarried⟩, -⟩ := World.answer_carried hidle h
    exact hcarried.settings
  cases h with
  | new =>
    obtain ⟨w₁, hread, -⟩ := Task.replied_cons_iff.1 hreplied
    exact ⟨rfl, hsettings hidle hread⟩
  | there =>
    obtain ⟨w₁, hget, hrest⟩ := Task.replied_cons_iff.1 hreplied
    obtain ⟨w₂, hread, -⟩ := Task.replied_cons_iff.1 hrest
    obtain ⟨⟨stamp, hcarried⟩, -⟩ := World.answer_carried hidle hget
    obtain ⟨hmemory, hidle₁⟩ := World.answer_unwritten hidle (.inr rfl) hget
    rw [← hmemory]
    exact ⟨(hmemory ▸ hcarried.get).symm, hsettings hidle₁ hread⟩

lemma Comes.begin (s : Sending) (default : String) (id : Option Id) :
    s.Comes default id [] .seeking := ⟨rfl, rfl, rfl, nofun⟩

lemma Comes.snoc (h : s.Comes default id log d)
    (hfollows : d'.Follows s default id (log ++ [⟨c, reply⟩]))
    (hinvoked : c.invoked = []) (hstreamed : d'.requests s default =
      d.requests s default ++ c.streamed) (hkept : d.HasSaved → d'.HasSaved)
    (hsent : (Asked.sent? ⟨c, reply⟩).isSome → d'.HasSaved) :
    s.Comes default id (log ++ [⟨c, reply⟩]) d' where
  follows := hfollows
  invoked := by
    rw [List.flatMap_append, h.invoked, List.flatMap_singleton, hinvoked]
    rfl
  streamed := by rw [List.flatMap_append, h.streamed, List.flatMap_singleton, hstreamed]
  sent hsome := by
    rw [List.findSome?_append, Option.isSome_or, Bool.or_eq_true] at hsome
    obtain hsome | hsome := hsome
    · exact hkept (h.sent hsome)
    · refine hsent ?_
      rwa [List.findSome?_singleton] at hsome

/-- A call that is allowed once all was looked up saves a message, or makes no difference. -/
lemma asking_ready (s : Sending) (default : String) (id : Option Id) (chat : Option Chat)
    (shared : GlobalSettings) (q : ChatCall) (reply : Except StoreError q.Reply) :
    (Asked.sent? ⟨.chats q, reply⟩).isSome ∧
        (s.asking default id).next (.ready chat shared) (.chats q) reply = .saved chat shared ∨
      Asked.sent? ⟨.chats q, reply⟩ = none ∧
        (s.asking default id).next (.ready chat shared) (.chats q) reply = .ready chat shared := by
  cases q with
  | addMessage i sender content =>
    cases sender with
    | human =>
      cases reply with
      | error e => exact .inr ⟨rfl, rfl⟩
      | ok m => exact .inl ⟨rfl, rfl⟩
    | ai => exact .inr ⟨rfl, rfl⟩
  | _ => exact .inr ⟨rfl, rfl⟩

theorem Comes.step (h : s.Comes default id log d) (hmay : (s.asking default id).may d c)
    (hhears : (s.asking default id).hears d c reply) :
    s.Comes default id (log ++ [⟨c, reply⟩]) ((s.asking default id).next d c reply) := by
  have hfollows := h.follows
  cases d with
  | seeking =>
    obtain rfl : log = [] := hfollows
    cases id with
    | none =>
      obtain rfl := hmay
      cases reply with
      | error e => exact h.snoc trivial rfl rfl (fun h => h) nofun
      | ok shared => exact h.snoc (.new shared []) rfl rfl (fun h => h) nofun
    | some id =>
      obtain rfl := hmay
      rcases reply with e | _ | chat
      · exact h.snoc trivial rfl rfl (fun h => h) nofun
      · exact h.snoc trivial rfl rfl (fun h => h) nofun
      · exact h.snoc ⟨id, rfl, rfl⟩ rfl rfl (fun h => h) nofun
  | found chat =>
    obtain ⟨i, rfl, rfl⟩ := hfollows
    obtain rfl := hmay
    cases reply with
    | error e => exact h.snoc trivial rfl rfl (fun h => h) nofun
    | ok shared => exact h.snoc (.there i chat shared []) rfl rfl (fun h => h) nofun
  | ready chat shared =>
    obtain rfl | ⟨q, rfl⟩ := hmay
    · exact h.snoc (hfollows.append _) rfl rfl (fun h => h) nofun
    · obtain ⟨hsent, hnext⟩ | ⟨hsent, hnext⟩ := asking_ready s default id chat shared q reply
      · rw [hnext]
        refine h.snoc ⟨hfollows.append _, ?_⟩ rfl rfl (fun _ => trivial) fun _ => trivial
        rw [List.findSome?_append, Option.isSome_or, List.findSome?_singleton, hsent, Bool.or_true]
      · rw [hnext]
        exact h.snoc (hfollows.append _) rfl rfl (fun h => h) (by rw [hsent]; nofun)
  | saved chat shared =>
    obtain rfl := hmay
    obtain ⟨hlooked, hsent⟩ := hfollows
    have hput : Asking.Follows s default id (log ++ [⟨_, reply⟩]) (.asked chat shared) :=
      ⟨hlooked.append _, log, reply, [], rfl, hsent⟩
    exact h.snoc hput rfl rfl (fun _ => trivial) fun _ => trivial
  | asked chat shared =>
    obtain ⟨i, rfl⟩ := hmay
    obtain ⟨hlooked, front, told, rest, rfl, hsent⟩ := hfollows
    have hput : Asking.Follows s default id (_ ++ [⟨_, reply⟩]) (.asked chat shared) :=
      ⟨hlooked.append _, front, told, rest ++ [⟨_, reply⟩], List.append_assoc .., hsent⟩
    exact h.snoc hput rfl rfl (fun _ => trivial) fun _ => trivial
  | stopped => exact hmay.elim

end Sending

namespace World

open Sending (Comes Looked Prevails)

variable {w w' : World} {default : String} {request : Http.Request} {part : Option (List Char)}
  {id : Option Id} {fields : List (String × String)} {s : Sending}
  {response : Option Http.Response} {sent : Message}

lemma postMessage_eq (hid : part.mapM pathId = .ok id)
    (hform : formOf Sending.fieldNames request = .ok fields)
    (hsending : Sending.ofFields fields = .ok s) :
    Endpoint.postMessage default part request = s.send default id := by
  have hread : Endpoint.postMessage default part request =
      ofExcept (Sending.ofFields fields) >>= fun s => s.send default id := by
    rw [Endpoint.postMessage, hid, hform]
    rfl
  rw [hread, hsending]
  rfl

/-- What was asked while a message is served that no agent answers, and how far that got. -/
lemma serve_comes (hposts : request.Posts part) (hid : part.mapM pathId = .ok id)
    (hform : formOf Sending.fieldNames request = .ok fields)
    (hsending : Sending.ofFields fields = .ok s) (hagent : s.agent = none)
    (hchat : ∀ x ∈ w.served default request, x.agentless)
    (hserve : w.serve default request = (response, w')) : ∃ d w₁,
      s.Comes default id (w.served default request) d ∧
      Task.Replied answer { w with cancelAt := none } (w.served default request) w₁ ∧
      (w' = w₁ ∧ d.Settled ∨
        ∃ c, response = none ∧ answer c w₁ = (none, w') ∧ (s.asking default id).may d c) := by
  have hexpects : (s.asking default id).Expects .seeking (w.served default request) :=
    Protocol.expects_of_forall fun x hx _ => hchat x hx
  have hsend : (s.send default id).Keeps (s.asking default id) (fun d _ => d.Settled) .seeking :=
    Sending.send_asks hagent
  rw [serve, respond_post hposts, postMessage_eq hid hform hsending] at hserve
  rw [served, respond_post hposts, postMessage_eq hid hform hsending] at hexpects ⊢
  cases response with
  | some response =>
    obtain ⟨hran, hreplied⟩ := Task.run_some hserve
    obtain ⟨d, hcomes, out, hsettled, -⟩ :=
      (keeps_complete hsend).ran_along (s.Comes default id) Comes.step (.begin s default id)
        hexpects hran
    exact ⟨d, w', hcomes, hreplied, .inl ⟨rfl, hsettled⟩⟩
  | none =>
    obtain ⟨c, w₁, hwaits, hreplied, hlost⟩ := Task.run_none hserve
    obtain ⟨d, hcomes, hmay⟩ :=
      (keeps_complete hsend).waits_along (s.Comes default id) Comes.step (.begin s default id)
        hexpects hwaits
    exact ⟨d, w₁, hcomes, hreplied, .inr ⟨c, rfl, hlost, hmay⟩⟩

/-- A message is saved, and this is the world in which that is told. Nothing is asked of the model
before. -/
def SavedIn (w : World) (log : List Asked) (sent : Message) (w₁ : World) : Prop :=
  ∃ front, front <+: log ∧ front.findSome? Asked.sent? = some sent ∧
    front.flatMap (·.call.streamed) = [] ∧
    Task.Replied answer { w with cancelAt := none } front w₁

/-- Once the message is saved, the model was asked, or it was to be asked next and the clock did not
get as far as the deadline. -/
lemma streamed_of_comes {d : Sending.Asking} {w₁ : World} {log : List Asked}
    (hcomes : s.Comes default id log d) (hsent : log.findSome? Asked.sent? = some sent)
    (hreplied : Task.Replied answer { w with cancelAt := none } log w₁)
    (hends : w' = w₁ ∧ d.Settled ∨
      ∃ c, response = none ∧ answer c w₁ = (none, w') ∧ (s.asking default id).may d c) :
    ∃ chat shared w₂, Looked id chat shared log ∧ w'.invocations = w.invocations ∧
      w'.unseen = w.unseen ∧ w.SavedIn log sent w₂ ∧
      (Clock.after? w₂.now w.limits.stream = none →
        response = none ∧ w' = w₂ ∧ w'.streamed = w.streamed) ∧
      (Clock.after? w₂.now w.limits.stream ≠ none →
        w'.streamed = w.streamed ++ [s.plainRequest default chat shared]) := by
  obtain ⟨halike, hinvoked, hstreamed⟩ := replied_asks hreplied
  have hunseen : w₁.unseen = w.unseen := halike.unseen rfl
  have hlimits : w₁.limits = w.limits := halike.limits
  rw [hcomes.invoked, List.append_nil] at hinvoked
  rw [hcomes.streamed] at hstreamed
  have hfollows := hcomes.follows
  have hsaved : d.HasSaved := hcomes.sent (by rw [hsent]; rfl)
  cases d with
  | saved chat shared =>
    obtain ⟨-, hsettled⟩ | ⟨c, rfl, hlost, rfl⟩ := hends
    · exact hsettled.elim
    have hin : w.SavedIn log sent w₁ := ⟨log, List.prefix_rfl, hsent, hcomes.streamed, hreplied⟩
    have hnone : w₁.streamed = w.streamed := hstreamed.trans (List.append_nil _)
    by_cases hclock : Clock.after? w₁.now w₁.limits.stream = none
    · obtain ⟨-, rfl⟩ := Prod.mk.inj ((askStream_of_none _ hclock).symm.trans hlost)
      rw [hlimits] at hclock
      exact ⟨chat, shared, _, hfollows.1, hinvoked, hunseen, hin, fun _ => ⟨rfl, rfl, hnone⟩,
        fun hne => absurd hclock hne⟩
    · obtain ⟨⟨hasked, hinvocations, hopened⟩, -⟩ := askStream_of_ne_none hclock hlost
      rw [hlimits] at hclock
      refine ⟨chat, shared, w₁, hfollows.1, ?_, (hasked.unseen halike.cancelAt).trans hunseen, hin,
        fun hnone => absurd hnone hclock, fun _ => hnone ▸ hopened⟩
      exact hinvocations.trans ((List.append_nil _).trans hinvoked)
  | asked chat shared =>
    obtain ⟨hlooked, front, told, rest, hlog, hfront⟩ := hfollows
    obtain ⟨w₂, hbefore, hafter⟩ := Task.replied_append_iff.1 (hlog ▸ hreplied)
    obtain ⟨w₃, hopens, -⟩ := Task.replied_cons_iff.1 hafter
    have hlimits₂ : w₂.limits = w.limits := (replied_asks hbefore).alike.limits
    have hclock : Clock.after? w₂.now w.limits.stream ≠ none := by
      intro hnone
      rw [← hlimits₂] at hnone
      cases (askStream_of_none _ hnone).symm.trans hopens
    have hin : w.SavedIn log sent w₂ := by
      refine ⟨front, hlog ▸ List.prefix_append _ _, ?_, ?_, hbefore⟩
      · rwa [hlog, List.findSome?_append, Option.or_of_isSome hfront] at hsent
      · have honce := hcomes.streamed
        rw [hlog, List.flatMap_append, List.flatMap_cons] at honce
        obtain ⟨hnil, -⟩ | ⟨-, hnil⟩ := List.append_eq_singleton_iff.1 honce
        · exact hnil
        · cases hnil
    have hends' : w'.invocations = w₁.invocations ∧ w'.unseen = w₁.unseen ∧
        w'.streamed = w₁.streamed := by
      obtain ⟨rfl, -⟩ | ⟨c, -, hlost, i, rfl⟩ := hends
      · exact ⟨rfl, rfl, rfl⟩
      · obtain ⟨hasked, hinvocations, hnone⟩ := askChats_asks hlost
        exact ⟨hinvocations.trans (List.append_nil _), hasked.unseen halike.cancelAt,
          hnone.trans (List.append_nil _)⟩
    exact ⟨chat, shared, w₂, hlooked, hends'.1.trans hinvoked, hends'.2.1.trans hunseen, hin,
      fun hnone => absurd hnone hclock, fun _ => hends'.2.2.trans hstreamed⟩
  | _ => exact hsaved.elim

/-- Without an agent, a message that is saved is put to the model once and as it stands, and nothing
else is: under the first prompt that is not blank, of the form, of the chat and of the settings for
all chats, or under the default, and after the messages that the chat had when it was found. Where
the message is saved and the clock does not get from there to the deadline for the reply, nothing is
asked, and no response comes. -/
theorem serve_plain_asked (hposts : request.Posts part) (hid : part.mapM pathId = .ok id)
    (hform : formOf Sending.fieldNames request = .ok fields)
    (hsending : Sending.ofFields fields = .ok s) (hagent : s.agent = none)
    (hchat : ∀ x ∈ w.served default request, x.agentless)
    (hserve : w.serve default request = (response, w'))
    (hsent : (w.served default request).findSome? Asked.sent? = some sent) :
    ∃ chat shared r w₁, Looked id chat shared (w.served default request) ∧
      (w.Idle → chat = id.bind w.chats.memory.find? ∧ shared = w.chats.memory.settings) ∧
      Prevails default
        [fields.lookup "prompt", chat.bind (·.settings.prompt), shared.prompt] r.systemPrompt ∧
      (∃ raw, fields.lookup "message" = some raw ∧ r.humanPrompt = Text.trim raw) ∧
      r.history = ((chat.map (·.messages)).getD []).map (fun m => ⟨m.sender, m.content⟩) ∧
      w'.invocations = w.invocations ∧ w'.unseen = w.unseen ∧
      w.SavedIn (w.served default request) sent w₁ ∧
      (Clock.after? w₁.now w.limits.stream = none →
        response = none ∧ w' = w₁ ∧ w'.streamed = w.streamed) ∧
      (Clock.after? w₁.now w.limits.stream ≠ none → w'.streamed = w.streamed ++ [r]) := by
  obtain ⟨d, w₁, hcomes, hreplied, hends⟩ :=
    serve_comes hposts hid hform hsending hagent hchat hserve
  obtain ⟨chat, shared, w₂, hlooked, hrest⟩ := streamed_of_comes hcomes hsent hreplied hends
  obtain ⟨r, hr, -⟩ | ⟨s', hs', hmessage, hprompt, -⟩ := Sending.ofFields_cases fields
  · rw [hsending] at hr
    cases hr
  rw [hsending] at hs'
  obtain rfl := Except.ok.inj hs'
  refine ⟨chat, shared, s.plainRequest default chat shared, w₂, hlooked, fun hidle => ?_, ?_,
    hmessage, rfl, hrest⟩
  · have hstart : World.Idle { w with cancelAt := none } := hidle
    obtain ⟨hfound, hshared⟩ := hlooked.idle hstart hreplied
    exact ⟨hfound, hshared⟩
  · rw [Sending.plainRequest, hprompt, Sending.systemPrompt_trimmed]
    exact Sending.prevails_iff.2 rfl

/-- The prompt of the form is blank, that of the chat is not set, and that for all chats looks like
a template. -/
theorem serve_plain_asked_braces : ∃ (w w' : World) (request : Http.Request) (r : Request),
    w.Idle ∧ (w.serve "" request).2 = w' ∧ w'.invocations = [] ∧ w'.unseen = [] ∧
      w'.streamed = [r] ∧
      Prevails "" [some " ", none, some " \x7b\x7b\x7bprompt\x7d "] r.systemPrompt ∧
      r.systemPrompt = "\x7b\x7b\x7bprompt\x7d" ∧ r.humanPrompt = "\x7bx\x7d" ∧
      r.history = [⟨.human, "hi"⟩] := by
  let chat : Chat :=
    { Chat.new default "hi" with messages := [.new default default .human "hi"] }
  let shared : GlobalSettings := { prompt := some " \x7b\x7b\x7bprompt\x7d " }
  let w : World :=
    { model := .unreachable
      stamps := ⟨fun _ => default, 0⟩
      chats := ⟨{ chats := [chat], settings := shared }, {}⟩ }
  let request : Http.Request :=
    { method := "POST"
      path := "/api/chat/00000000-0000-0000-0000-000000000000".toList
      headers := [("content-type", "application/x-www-form-urlencoded")]
      body := Text.Utf8.ofString "intent=sendMessage&message=+%7Bx%7D+&prompt=+" }
  let fields := [("intent", "sendMessage"), ("message", " \x7bx\x7d "), ("prompt", " ")]
  let part := "00000000-0000-0000-0000-000000000000".toList
  have hposts : request.Posts (some part) := ⟨rfl, by decide +kernel⟩
  have hid : (some part).mapM pathId = .ok (some default) := by decide +kernel
  have hform : formOf Sending.fieldNames request = .ok fields := by decide +kernel
  have hsending : Sending.ofFields fields = .ok { message := "\x7bx\x7d" } := by decide +kernel
  obtain ⟨hchat, hsome, hanswered⟩ : (w.served "" request).all Asked.agentless ∧
      ((w.served "" request).findSome? Asked.sent?).isSome ∧ (w.serve "" request).1.isSome := by
    decide +kernel
  obtain ⟨sent, hsent⟩ := Option.isSome_iff_exists.1 hsome
  have hidle : w.Idle := rfl
  have hserve : w.serve "" request = ((w.serve "" request).1, (w.serve "" request).2) := rfl
  generalize (w.serve "" request).1 = response at hserve hanswered
  generalize (w.serve "" request).2 = w' at hserve
  obtain ⟨chat', shared', r, w₁, -, hfound, hprevails, ⟨raw, hraw, hhuman⟩, hhistory, hinvocations,
    hunseen, -, hbroken, hstreamed⟩ := serve_plain_asked hposts hid hform hsending rfl
      (List.all_eq_true.1 hchat) hserve hsent
  have hclock : Clock.after? w₁.now w.limits.stream ≠ none := fun hnone => by
    rw [(hbroken hnone).1] at hanswered
    cases hanswered
  obtain ⟨rfl, rfl⟩ := hfound hidle
  obtain rfl := Option.some.inj hraw
  refine ⟨w, w', request, r, hidle, by rw [hserve], hinvocations, hunseen, hstreamed hclock,
    hprevails, ?_, ?_, hhistory⟩
  · rw [Sending.prevails_iff.1 hprevails]
    decide +kernel
  · rw [hhuman]
    decide +kernel

/-- With the longest time that can be set for answers, a message is saved and never put to the
model. -/
theorem serve_plain_unasked :
    ¬∀ (w w' : World) (default : String) (request : Http.Request) (part : Option (List Char))
      (id : Option Id) (fields : List (String × String)) (s : Sending)
      (response : Option Http.Response) (sent : Message), request.Posts part →
      part.mapM pathId = .ok id → formOf Sending.fieldNames request = .ok fields →
      Sending.ofFields fields = .ok s → s.agent = none →
      (∀ x ∈ w.served default request, x.agentless) →
      w.serve default request = (response, w') →
      (w.served default request).findSome? Asked.sent? = some sent →
      ∃ r, w'.streamed = w.streamed ++ [r] := by
  intro h
  let request : Http.Request :=
    { method := "POST"
      path := "/api/chat".toList
      headers := [("content-type", "application/x-www-form-urlencoded")]
      body := Text.Utf8.ofString "intent=sendMessage&message=hello" }
  let fields := [("intent", "sendMessage"), ("message", "hello")]
  have hposts : request.Posts none := ⟨rfl, by decide +kernel⟩
  have hform : formOf Sending.fieldNames request = .ok fields := by decide +kernel
  have hsending : Sending.ofFields fields = .ok { message := "hello" } := by decide +kernel
  obtain ⟨hchat, hsome, hunasked⟩ : (boundless.served "" request).all Asked.agentless ∧
      ((boundless.served "" request).findSome? Asked.sent?).isSome ∧
      (boundless.serve "" request).2.streamed = [] := by
    decide +kernel
  obtain ⟨sent, hsent⟩ := Option.isSome_iff_exists.1 hsome
  have hserve : boundless.serve "" request =
    ((boundless.serve "" request).1, (boundless.serve "" request).2) := rfl
  obtain ⟨r, hasked⟩ := h _ _ "" request none none fields _ _ sent hposts rfl hform hsending rfl
    (List.all_eq_true.1 hchat) hserve hsent
  rw [hunasked] at hasked
  cases hasked

end World

end Parley
