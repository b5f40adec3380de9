import Parley.Proofs.Server.Alone

/-!
# Flights do not disturb each other

Whatever flights there are, in whatever order they go on, and whichever of their calls fail: each
writes and deletes only its own message, every message stays where it was added, and each flight
comes alone to where it is (`Flying.undisturbed`).
-/

namespace Parley

open ChatEvent (left left_untouched)

variable {d d' d₀ : Desk} {l₀ : Ledger} {f f' g : Flight} {fs fs₀ rest : List Flight} {m : Message}

namespace Together

/-- The messages that were there at first are left as they were. -/
lemma left_first (h : Together l₀ d fs) (hm : m.id ∈ d.first) : left d.events m = some m := by
  refine left_untouched fun x hx htouched => ?_
  obtain ⟨f, hf, hx⟩ := List.mem_flatMap.1 (h.events.mem_iff.1 hx)
  obtain ⟨m', hm', hid⟩ := List.mem_map.1 (f.answers_subset (h.touched f hf x hx _ htouched))
  exact h.kept.new m' (h.mem_posted hf hm') (hid ▸ hm)

lemma stored (h : Together l₀ d fs) (hf : f ∈ fs) (hm : m ∈ f.posts) :
    d.ledger.stored m.id = (left f.events m).toList := by
  rw [h.kept.stored_eq (h.mem_posted hf hm), h.same f hf m hm]

lemma order (h : Together l₀ d fs) {c : Chat} (hc : c ∈ d.ledger.chats) :
    c.messages = l₀.messagesOf c.id ++
      (d.posted.filter (·.chatId = c.id)).filterMap (left d.events) := by
  have hfirst : (l₀.messagesOf c.id).filterMap (left d.events) = l₀.messagesOf c.id := by
    have hsame : ∀ m ∈ l₀.messagesOf c.id, left d.events m = some m :=
      fun m hm => h.left_first (h.kept.messagesOf_first hm)
    rw [List.filterMap_congr hsame, List.filterMap_some]
  rw [h.kept.messages c hc, List.filterMap_append, hfirst]

/-- A message of a human stays as it was sent. -/
lemma human (h : Together l₀ d fs) (hf : f ∈ fs) (hm : m ∈ f.posts) (hsender : m.sender = .human) :
    m.content = f.sending.message ∧ d.ledger.stored m.id = [m] := by
  have hsound := h.sound f hf
  refine ⟨hsound.fits.content (hsound.posts_eq ▸ hm) hsender, ?_⟩
  rw [h.stored hf hm, left_untouched]
  · rfl
  intro x hx htouched
  obtain ⟨reply, hreply, hid⟩ := List.mem_map.1 (h.touched f hf x hx _ htouched)
  obtain ⟨hmem, hai⟩ := List.mem_filter.1 hreply
  obtain rfl := List.inj_on_of_nodup_map h.kept.once (h.mem_posted hf hmem) (h.mem_posted hf hm) hid
  rw [hsender] at hai
  cases hai

end Together

/-- What a settled relay has sent, and left of its message: the text of the reply, or nothing if the
message could be deleted. -/
structure Flight.Closes (l : Ledger) (response : Http.Response) (log : List Relay.Exchange)
    (reply : Message) (turn : Turn) (status : Reply.Status) : Prop where
  sender : reply.sender = .ai
  body : ∃ stream, response.body = .reply { messageId := reply.id, turn } stream
  truthful : Relay.Truthful reply.id turn log status
  kept : status = .success → l.stored reply.id =
    [{ reply with content := Text.trimStart (String.join (Relay.deltas log)) }]
  gone : status = .failure →
    (∀ e, ¬Relay.Answered log (.discard reply.id) (.discarded (.error e))) → l.stored reply.id = []

namespace Together

variable {response : Http.Response} {relay : Relay} {log : List Relay.Exchange}

lemma closes (h : Together l₀ d fs) (hf : f ∈ fs) (hstage : f.stage = .relaying response relay log)
    (hdemand : relay.demand = .nothing) :
    ∃ reply ∈ f.posts, ∃ turn status, Flight.Closes d.ledger response log reply turn status := by
  have hsound := h.sound f hf
  obtain ⟨m, reply, turn, hrelays⟩ := hsound.relays hstage
  obtain ⟨status, htruthful, hclosed⟩ :=
    Relay.run_closed hrelays.run (Relay.demand_eq_nothing_iff.1 hdemand) hrelays.present
  have hreply := hrelays.mem_posts hsound
  have hstored : d.ledger.stored reply.id = (left (Relay.events log) reply).toList := by
    rw [h.stored hf hreply, hsound.left_events, hstage]
    rfl
  have htext : turn.textWith (Relay.deltas log) = Text.trimStart (String.join (Relay.deltas log)) :=
    if_pos hrelays.empty
  rw [htext] at hclosed
  refine ⟨reply, hreply, turn, status, hrelays.sender hsound, hrelays.body, htruthful, ?_, ?_⟩
  · rintro rfl
    cases hclosed with
    | kept hevents => simp [hstored, hevents, left]
  · rintro rfl hnot
    cases hclosed with
    | gone hevents => simp [hstored, hevents, left]
    | stuck _ he => exact absurd he (hnot _)

lemma tidied (h : Together l₀ d fs) (hf : f ∈ fs) {found : Bool}
    (hstage : f.stage = .left response relay log (some (.ok found))) :
    ∃ reply ∈ f.posts, reply.sender = .ai ∧ relay.messageId = reply.id ∧
      d.ledger.stored reply.id = [] := by
  have hsound := h.sound f hf
  obtain ⟨⟨m, reply, turn, hrelays⟩, hphase, hfound⟩ := hsound.left hstage
  have hreply := hrelays.mem_posts hsound
  have hid := Relay.run_messageId hrelays.run
  obtain rfl : found = true := by
    cases found with
    | true => rfl
    | false => exact absurd rfl hfound
  refine ⟨reply, hreply, hrelays.sender hsound, hid, ?_⟩
  rw [h.stored hf hreply, hsound.left_events, hstage, Flight.Stage.events,
    Relay.run_unsettled hrelays.run hphase, hid]
  simp [ChatCall.event?, left]

/-- A step of a flight leaves all messages but its own. -/
lemma spares (h : Together l₀ d fs) (hf : f ∈ fs) (hstep : Flight.Step d f d' f') (chat : Id) :
    (d'.ledger.messagesOf chat).filter (·.id ∉ f'.ids) =
      (d.ledger.messagesOf chat).filter (·.id ∉ f'.ids) := by
  obtain ⟨e, hmoves⟩ := hstep.moves h.kept (h.sound f hf) (h.seen hf)
  obtain ⟨l, hchanges, rfl⟩ := hmoves.changes
  have hids : f'.ids = f.ids ++ (e.bind (·.added?)).toList.map (·.id) := by
    rw [Flight.ids, hmoves.posts, List.map_append, ← Flight.ids]
  refine h.kept.messagesOf_after hchanges f'.ids ?_ ?_ chat
  · rintro m rfl
    rw [hids]
    exact List.mem_append_right _ (.head _)
  · intro x hx id hid
    rw [hids]
    exact List.mem_append_left _ (f.answers_subset (hmoves.touched x hx id hid))

/-- A step of one flight leaves the messages of the others as they are stored. -/
lemma others (h : Together l₀ d (f :: rest)) (hstep : Flight.Step d f d' f') (hg : g ∈ rest)
    (hm : m ∈ g.posts) : d'.ledger.stored m.id = d.ledger.stored m.id := by
  obtain ⟨e, hmoves⟩ := hstep.moves h.kept (h.sound f (.head _)) (h.seen (.head _))
  rw [(h.step hmoves).stored (.tail _ hg) hm, h.stored (.tail _ hg) hm]

end Together

lemma Flying.came (h : Flying d₀ fs₀ d fs) (hfs : ∀ f ∈ fs₀, f.new = f) : ∀ f ∈ fs, f.Came := by
  induction h with
  | start => exact fun f hf => hfs f hf ▸ trivial
  | step _ hstep ih =>
    have hfirst := fun g hg => ih g (List.perm_middle.mem_iff.2 hg)
    intro g hg
    obtain rfl | hg := List.mem_cons.1 (List.perm_middle.mem_iff.1 hg)
    · exact hstep.came (hfirst _ (.head _))
    · exact hfirst g (.tail _ hg)

/-- What holds of flights from their start on, at every moment. -/
structure Undisturbed (d₀ : Desk) (fs₀ : List Flight) (d : Desk) (fs : List Flight) : Prop where
  /-- Every flight is in the place where it was. -/
  places : fs.map (·.new) = fs₀
  /-- What has happened to the chats is what the flights have done. -/
  events : d.events.Perm (fs.flatMap (·.events))
  /-- No two messages that were added are one. -/
  once : (d.posted.map (·.id)).Nodup
  /-- No step of a flight adds, changes or removes a message that is not its own. -/
  spares : ∀ f ∈ fs, ∀ d' f', Flight.Step d f d' f' → ∀ chat,
    (d'.ledger.messagesOf chat).filter (·.id ∉ f'.ids) =
      (d.ledger.messagesOf chat).filter (·.id ∉ f'.ids)
  /-- No step of a flight changes or removes a message of another. -/
  others : ∀ front f rest d' f', fs = front ++ f :: rest → Flight.Step d f d' f' →
    ∀ g ∈ front ++ rest, ∀ m ∈ g.posts, d'.ledger.stored m.id = d.ledger.stored m.id
  /-- A chat has the messages that it had, and then what is left of those added since, in the order
  of the calls. -/
  order : ∀ c ∈ d.ledger.chats, c.messages = d₀.ledger.messagesOf c.id ++
    (d.posted.filter (·.chatId = c.id)).filterMap (left d.events)
  /-- A message of a human is there once, as it was sent. -/
  human : ∀ f ∈ fs, ∀ m ∈ f.posts, m.sender = .human →
    m.content = f.sending.message ∧ d.ledger.stored m.id = [m]
  /-- There is no message for a reply without a response. -/
  unanswered : ∀ f ∈ fs, (f.stage = .dropped ∨ ∃ r, f.stage = .refused r) →
    ∀ m ∈ f.posts, m.sender = .human
  /-- A relay that is settled has left its message as its status says. -/
  closes : ∀ f ∈ fs, ∀ response relay log, f.stage = .relaying response relay log →
    relay.demand = .nothing →
    ∃ reply ∈ f.posts, ∃ turn status, Flight.Closes d.ledger response log reply turn status
  /-- The message of a reply whose body was dropped is gone, if it could be deleted. -/
  tidied : ∀ f ∈ fs, ∀ response relay log found,
    f.stage = .left response relay log (some (.ok found)) →
    ∃ reply ∈ f.posts, reply.sender = .ai ∧ relay.messageId = reply.id ∧
      d.ledger.stored reply.id = []
  /-- A flight could have come alone to where it is, from the ledger that it began with. -/
  alone : ∀ f ∈ fs, ∃ d₁ fs₁ d₂, Alone d₀ fs₀ d fs f d₁ fs₁ d₂
  /-- Wherever it had been alone, it would have replied the same, if it had got the same replies and
  heard the same of the model and the store. -/
  replies : ∀ f ∈ fs, ∀ d₁ d₂ g, Flying d₁ [f.new] d₂ [g] → g.asked = f.asked →
    g.heard = f.heard → ∀ out out', f.replied? = some out → g.replied? = some out' → out' = out

/-- Whatever flights there are, in whatever order they go on, and whichever of their calls fail:
they do not disturb each other. -/
theorem Flying.undisturbed (hd : d₀.Starts) (hfs : ∀ f ∈ fs₀, f.new = f)
    (h : Flying d₀ fs₀ d fs) : Undisturbed d₀ fs₀ d fs := by
  have htogether := h.together hd hfs
  constructor
  case places => rw [h.new, List.map_congr_left hfs, List.map_id']
  case events => exact htogether.events
  case once => exact htogether.kept.once
  case spares => exact fun f hf d' f' hstep => htogether.spares hf hstep
  case others =>
    rintro front f rest d' f' rfl hstep g hg m hm
    exact (htogether.perm List.perm_middle).others hstep hg hm
  case order => exact fun c hc => htogether.order hc
  case human => exact fun f hf m hm => htogether.human hf hm
  case unanswered =>
    intro f hf hstage m hm
    have hsound := htogether.sound f hf
    have hfits := hsound.stage
    rw [hsound.posts_eq] at hm
    obtain hstage | ⟨r, hstage⟩ := hstage
    · rw [hstage] at hfits
      exact hsound.fits.sender hfits hm
    · rw [hstage] at hfits
      exact hsound.fits.sender hfits hm
  case closes => exact fun f hf response relay log => htogether.closes hf
  case tidied => exact fun f hf response relay log found => htogether.tidied hf
  case alone =>
    intro f hf
    obtain hnew | ⟨d₁, fs₁, d₂, halone, -⟩ := h.alone hd hfs f hf
    · exact ⟨d, fs, d.restart, h, .start, hnew.symm ▸ hf, hnew.symm ▸ .start⟩
    · exact ⟨d₁, fs₁, d₂, halone⟩
  case replies =>
    intro f hf d₁ d₂ g hg hasked hheard out out' hout hout'
    have hnew : g.new = f.new := List.singleton_inj.1 hg.new
    have hcame : g.Came := hg.came (fun _ hf => List.mem_singleton.1 hf ▸ rfl) g (.head _)
    exact hcame.unique (h.came hfs f hf) hnew hasked hheard hout' hout

/-- Two messages are sent to one chat at the same time. One of them is answered. -/
theorem Flying.undisturbed_pair :
    let chat : Chat := .new ⟨.ofNat 1, default⟩ "diary"
    let d₀ : Desk := { ledger := { chats := [chat] }, first := [chat.id] }
    let f : Flight := { default := "", chat := some chat.id, sending := { message := "a" } }
    let g : Flight := { default := "", chat := some chat.id, sending := { message := "b" } }
    ∃ d f' g', Flying d₀ [f, g] d [f', g'] ∧ Undisturbed d₀ [f, g] d [f', g'] ∧
      (d.ledger.messagesOf chat.id).map (fun m => (m.sender, m.content)) =
        [(.human, "a"), (.human, "b"), (.ai, "x")] := by
  intro chat d₀ f g
  let a : Message := .new ⟨.ofNat 2, default⟩ chat.id .human "a"
  let b : Message := .new ⟨.ofNat 3, default⟩ chat.id .human "b"
  let x : Message := .new ⟨.ofNat 4, default⟩ chat.id .ai ""
  let d (ms : List Message) (events : List ChatEvent) : Desk :=
    ⟨{ chats := [{ chat with messages := ms }] }, [chat.id], events⟩
  let d₁ : Desk := d [a] [.added a]
  let d₂ : Desk := d [a, b] [.added a, .added b]
  let d₃ : Desk := d [a, b, x] [.added a, .added b, .added x]
  let d₄ : Desk := d [a, b, { x with content := "x" }]
    [.added a, .added b, .added x, .rewritten x.id "x"]
  have hgets : d₀.Called (.get chat.id) (.ok (some chat)) d₀ :=
    @Desk.Called.ofDecide d₀ (.get chat.id) default (some chat) none rfl (by decide)
  have hreads : d₀.Called .settings (.ok {}) d₀ :=
    @Desk.Called.ofDecide d₀ .settings default {} none rfl (by decide)
  have ha : d₀.Called (.addMessage chat.id .human "a") (.ok a) d₁ :=
    @Desk.Called.ofDecide d₀ (.addMessage chat.id .human "a") ⟨.ofNat 2, default⟩ a (some d₁.ledger)
      rfl (by decide)
  have hb : d₁.Called (.addMessage chat.id .human "b") (.ok b) d₂ :=
    @Desk.Called.ofDecide d₁ (.addMessage chat.id .human "b") ⟨.ofNat 3, default⟩ b (some d₂.ledger)
      rfl (by decide)
  have hx : d₂.Called (.addMessage chat.id .ai "") (.ok x) d₃ :=
    @Desk.Called.ofDecide d₂ (.addMessage chat.id .ai "") ⟨.ofNat 4, default⟩ x (some d₃.ledger)
      rfl (by decide)
  have hkept : d₃.Called (.updateMessage x.id "x") (.ok true) d₄ :=
    @Desk.Called.ofDecide d₃ (.updateMessage x.id "x") default true (some d₄.ledger) rfl (by decide)
  let s : Stream := ⟨{ items := [] }, 0, .ofMillis 0, false⟩
  have hopens (r : Request) : d₂.Replies (.openStream r) (.ok s) d₂ :=
    .other (fun _ => Call.noConfusion) _
  have h : Flying d₀ [f, g] d₀ _ := .first (.first .start
    (.asks rfl .here (.chats hgets))) (.asks rfl (.ask _ .here) (.chats hreads))
  have h := @Flying.step _ _ _ _ [_] [] _ _ h (.asks rfl .here (.chats hgets))
  have h := @Flying.step _ _ _ _ [_] [] _ _ h (.asks rfl (.ask _ .here) (.chats hreads))
  have h := h.first (.asks rfl (.ask _ (.ask _ .here)) (.chats ha))
  have h := @Flying.step _ _ _ _ [_] [] _ _ h (.asks rfl (.ask _ (.ask _ .here)) (.chats hb))
  have h := h.first (.asks rfl (.ask _ (.ask _ (.ask _ .here))) (hopens _))
  have h := h.first (.asks rfl (.ask _ (.ask _ (.ask _ (.ask _ .here)))) (.chats hx))
  have h := h.first (.answered rfl (.ask _ (.ask _ (.ask _ (.ask _ (.ask _ (.done _)))))) rfl)
  have h := h.first (.heard rfl (.item (.delta "x")))
  have h := h.first (.heard rfl (.item .ended))
  have h := h.first (.heard rfl (.saved hkept))
  have hstarts : d₀.Starts := by
    refine ⟨⟨by decide, by decide, fun id c hc c' hc' _ _ => ?_⟩, by decide, rfl⟩
    rw [List.mem_singleton.1 hc, List.mem_singleton.1 hc']
  have hnew : ∀ f₁ ∈ [f, g], f₁.new = f₁ := by simp [f, g, Flight.new]
  exact ⟨_, _, _, h, h.undisturbed hstarts hnew, by decide⟩

end Parley
