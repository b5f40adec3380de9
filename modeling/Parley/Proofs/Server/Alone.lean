import Parley.Proofs.Server.Flights

/-!
# Flights alone

Whatever others do in between, a flight could have come alone to where it is, from the ledger that
it began with (`Flying.alone`). And it replies what its work and its relay make of the replies and
the events that they got, whoever else was there (`Flight.Came.unique`).
-/

namespace Parley

open Relay (Exchange)

variable {d d' d₀ d₁ : Desk} {l₀ l₁ : Ledger} {f f' g g' : Flight} {fs fs₀ rest : List Flight}
  {e : Option ChatEvent} {id : Id}

/-- A flight stands at a desk as it does at another one, where others came in between. -/
structure Shadow (d : Desk) (f : Flight) (d₁ : Desk) : Prop where
  settings : d₁.ledger.settings = d.ledger.settings
  used : d₁.used ⊆ d.used
  start : f.new = f → d₁.ledger = d.ledger
  found : ∀ id, f.draft = .found id → id ∈ d₁.ledger.ids
  bare : ∀ id ∈ f.draft.own?, d₁.ledger.messagesOf id = []

namespace Shadow

lemma restart (d : Desk) (hf : f.new = f) : Shadow d f d.restart where
  settings := rfl
  used := by
    rw [Desk.used, Desk.restart, List.filterMap_nil, List.append_nil]
    exact fun id hid => hid
  start _ := rfl
  found id hfound := by
    rw [← hf] at hfound
    cases hfound
  bare id hid := by
    rw [← hf] at hid
    cases hid

/-- What others do makes no difference. -/
lemma others (h : Shadow d f d₁) (hmoves : Flight.Moves d d' g g' e) (hf : f.new ≠ f) :
    Shadow d' f d₁ where
  settings := h.settings.trans hmoves.settings.symm
  used := by
    obtain ⟨l, -, rfl⟩ := hmoves.changes
    rw [Desk.used_after]
    exact fun id hid => List.mem_append_left _ (h.used hid)
  start hnew := absurd hnew hf
  found := h.found
  bare := h.bare

lemma after {d₁' : Desk} (h : Shadow d f d₁) (hd₁ : Together l₁ d₁ [f])
    (hmoves : Flight.Moves d d' f f' e) (hmoves₁ : Flight.Moves d₁ d₁' f f' e)
    (hf' : f'.new ≠ f') : Shadow d' f' d₁' where
  settings := hmoves₁.settings.trans (h.settings.trans hmoves.settings.symm)
  used := by
    obtain ⟨l, -, rfl⟩ := hmoves.changes
    obtain ⟨l₁, -, rfl⟩ := hmoves₁.changes
    rw [Desk.used_after, Desk.used_after]
    exact List.append_subset.2 ⟨fun id hid => List.mem_append_left _ (h.used hid),
      List.subset_append_right _ _⟩
  start hnew := absurd hnew hf'
  found id hfound := by
    obtain ⟨rfl, hfound | hthere⟩ := hmoves₁.found id hfound
    · obtain ⟨l₁, hchanges, rfl⟩ := hmoves₁.changes
      exact hd₁.kept.ids_after hchanges (h.found id hfound) List.not_mem_nil
    · exact hthere
  bare id hid := by
    obtain ⟨l₁, hchanges, rfl⟩ := hmoves₁.changes
    have howns := hmoves₁.owns
    generalize hown : f.draft.own? = own at howns
    generalize f'.draft.own? = own' at howns hid
    cases howns with
    | kept =>
      have hsame := hd₁.kept.messagesOf_after hchanges [] (fun _ h => by cases h)
        (fun _ h => by cases h) id
      rw [h.bare id (hown ▸ hid)] at hsame
      simpa [Desk.after] using hsame
    | opened chat =>
      cases hid
      obtain ⟨hempty, hthere⟩ := hchanges.opened chat rfl
      exact (Ledger.messagesOf_some (hchanges.distinct.find?_iff.2 ⟨hthere, rfl⟩)).trans hempty
    | given => cases hid

/-- The work asks for nothing that would come out differently. -/
lemma repeats {c : ChatCall} (h : Shadow d f d₁) (hd : Together l₀ d (f :: rest))
    (hd₁ : Together l₁ d₁ [f]) (hstage : f.stage = .handling)
    (hmay : f.protocol.may f.draft (.chats c)) : d₁.Repeats d c := by
  have hsound := hd.sound f (.head _)
  have hown (id : Id) (hid : f.draft.own? = some id) : id ∈ d₁.ledger.ids :=
    hd₁.owned f (.head _) id hid
  generalize hdraft : f.draft = draft at hmay hown
  cases draft with
  | fresh =>
    have hnew : f.new = f := by
      obtain ⟨default, chat, sending, asked, stage⟩ := f
      obtain rfl : asked = [] := hsound.begun hdraft
      obtain rfl : stage = .handling := hstage
      rfl
    have hledger := h.start hnew
    unfold Flight.protocol at hmay
    cases hchat : f.chat with
    | none =>
      rw [hchat] at hmay
      cases hmay
      exact congrArg Ledger.settings hledger
    | some id =>
      rw [hchat] at hmay
      cases hmay
      exact congrArg (Ledger.find? · id) hledger
  | stopped => exact hmay.elim
  | chatless =>
    obtain ⟨a, hc⟩ | hc | ⟨chat, -, hc⟩ := hmay <;> cases hc
    exact trivial
  | found id =>
    obtain hc | ⟨a, hc⟩ | hc := hmay <;> cases hc
    · exact h.settings
    · exact h.found id hdraft
  | made id =>
    cases hmay
    exact hown id rfl
  | spoiled id =>
    cases hmay
    refine ⟨iff_of_true (hown id rfl) ?_, h.bare id (by rw [hdraft]; rfl)⟩
    exact hd.owned f (.head _) id (by rw [hdraft]; rfl)
  | sent m =>
    obtain ⟨r, hc⟩ | ⟨r, hc⟩ | hc := hmay <;> cases hc
    have hm : m ∈ f.posts := by
      rw [hsound.posts_eq, hdraft]
      exact .head _
    refine hd₁.kept.there m (hd₁.mem_posted (.head _) hm) ?_
    rw [hd₁.same f (.head _) m hm, hsound.untouched (by rw [hstage]; rfl)]
    exact Option.some_ne_none m
  | held => exact hmay.elim

/-- A call comes out in the same way. -/
lemma called {c : ChatCall} {reply : Except StoreError c.Reply} (h : Shadow d f d₁)
    (hd : Together l₀ d (f :: rest)) (hd₁ : Together l₁ d₁ [f]) (hcall : d.Called c reply d')
    (hc : d₁.Repeats d c) : ∃ d₁', d₁.Called c reply d₁' := by
  cases reply with
  | error e => exact ⟨d₁, .failed e⟩
  | ok reply =>
    obtain ⟨l, hagain⟩ := hcall.again hd.kept hd₁.kept h.used hc
    exact ⟨_, hagain⟩

lemma holds (hd : Together l₀ d (f :: rest)) (hd₁ : Together l₁ d₁ [f]) (hid : id ∈ f.ids) :
    d₁.ledger.Holds id ↔ d.ledger.Holds id := by
  obtain ⟨m, hm, rfl⟩ := List.mem_map.1 hid
  rw [hd₁.kept.holds_iff (hd₁.mem_posted (.head _) hm),
    hd.kept.holds_iff (hd.mem_posted (.head _) hm), hd₁.same f (.head _) m hm,
    hd.same f (.head _) m hm]

lemma again (h : Shadow d f d₁) (hd : Together l₀ d (f :: rest)) (hd₁ : Together l₁ d₁ [f])
    (hstep : Flight.Step d f d' f') : ∃ d₁', Flight.Step d₁ f d₁' f' := by
  have hsound := hd.sound f (.head _)
  cases hstep with
  | asks hstage hwaits hreplies =>
    cases hreplies with
    | chats hcall =>
      have hmay := (Sending.send_drafts _ _ _).waits hsound.expects hwaits
      obtain ⟨d₁', hagain⟩ := h.called hd hd₁ hcall (h.repeats hd hd₁ hstage hmay)
      exact ⟨d₁', .asks hstage hwaits (.chats hagain)⟩
    | other hc => exact ⟨d₁, .asks hstage hwaits (.other hc _)⟩
  | refused hstage hran => exact ⟨d₁, .refused hstage hran⟩
  | dropped hstage hwaits => exact ⟨d₁, .dropped hstage hwaits⟩
  | answered hstage hran hbody => exact ⟨d₁, .answered hstage hran hbody⟩
  | @heard response relay log e _ hstage hhears =>
    obtain ⟨m, reply, turn, hrelays⟩ := hsound.relays hstage
    have hholds := holds hd hd₁ (f.answers_subset (hrelays.id_mem hsound))
    generalize hdemand : relay.demand = demand at hhears
    cases hhears with
    | item he => exact ⟨d₁, .heard hstage (hdemand ▸ .item he)⟩
    | @saved id text outcome _ hcall =>
      obtain ⟨rfl, -⟩ := Relay.demand_message (.inl ⟨text, hdemand⟩)
      obtain ⟨d₁', hagain⟩ := h.called hd hd₁ hcall hholds
      exact ⟨d₁', .heard hstage (hdemand ▸ .saved hagain)⟩
    | @discarded id outcome _ hcall =>
      obtain ⟨rfl, -⟩ := Relay.demand_message (.inr hdemand)
      obtain ⟨d₁', hagain⟩ := h.called hd hd₁ hcall hholds
      exact ⟨d₁', .heard hstage (hdemand ▸ .discarded hagain)⟩
  | left hstage harmed => exact ⟨d₁, .left hstage harmed⟩
  | tidied hstage hcall =>
    obtain ⟨⟨m, reply, turn, hrelays⟩, -⟩ := hsound.left hstage
    have hholds := holds hd hd₁ (f.answers_subset (hrelays.id_mem hsound))
    obtain ⟨d₁', hagain⟩ := h.called hd hd₁ hcall hholds
    exact ⟨d₁', .tidied hstage hagain⟩

/-- Whatever happens at the one desk happens at the other. -/
theorem step (h : Shadow d f d₁) (hd : Together l₀ d (f :: rest)) (hd₁ : Together l₁ d₁ [f])
    (hstep : Flight.Step d f d' f') : ∃ d₁', Flight.Step d₁ f d₁' f' ∧ Shadow d' f' d₁' := by
  obtain ⟨d₁', hstep₁⟩ := h.again hd hd₁ hstep
  have hsound := hd.sound f (.head _)
  obtain ⟨e, hmoves⟩ := hstep.moves hd.kept hsound (hd.seen (.head _))
  obtain ⟨e₁, hmoves₁⟩ := hstep₁.moves hd₁.kept hsound (hd₁.seen (.head _))
  obtain rfl : e = e₁ := by
    have hevents := hmoves.events.symm.trans hmoves₁.events
    have hlists := List.append_cancel_left hevents
    cases e <;> cases e₁ <;> simp_all
  exact ⟨d₁', hstep₁, h.after hd₁ hmoves hmoves₁ hstep.begun⟩

end Shadow

/-- A flight came alone to where it is, from a moment of a run on when it had not begun. -/
structure Alone (d₀ : Desk) (fs₀ : List Flight) (d : Desk) (fs : List Flight) (f : Flight)
    (d₁ : Desk) (fs₁ : List Flight) (d₂ : Desk) : Prop where
  before : Flying d₀ fs₀ d₁ fs₁
  since : Flying d₁ fs₁ d fs
  waiting : f.new ∈ fs₁
  alone : Flying d₁.restart [f.new] d₂ [f]

lemma Alone.together {fs₁ : List Flight} {d₂ : Desk} (h : Alone d₀ fs₀ d fs f d₁ fs₁ d₂)
    (hd : d₀.Starts) (hfs : ∀ f ∈ fs₀, f.new = f) : Together d₁.ledger d₂ [f] := by
  refine h.alone.together (h.before.together hd hfs).kept.restart fun g hg => ?_
  obtain rfl := List.mem_singleton.1 hg
  rfl

/-- Any flight could have come alone to where it is. -/
theorem Flying.alone (h : Flying d₀ fs₀ d fs) (hd : d₀.Starts) (hfs : ∀ f ∈ fs₀, f.new = f) :
    ∀ f ∈ fs, f.new = f ∨
      ∃ d₁ fs₁ d₂, Alone d₀ fs₀ d fs f d₁ fs₁ d₂ ∧ Shadow d f d₂ := by
  induction h with
  | start => exact fun f hf => .inl (hfs f hf)
  | @step d d' front rest f f' h hstep ih =>
    have hfirst := (h.together hd hfs).perm List.perm_middle
    intro g hg
    obtain rfl | hg := List.mem_cons.1 (List.perm_middle.mem_iff.1 hg)
    -- a flight that begins with this step begins alone at this very ledger
    · have hmem : f ∈ front ++ f :: rest := List.perm_middle.mem_iff.2 (.head _)
      have hbegun : ∃ d₁ fs₁ d₂, Alone d₀ fs₀ d (front ++ f :: rest) f d₁ fs₁ d₂ ∧
          Shadow d f d₂ := by
        obtain hnew | hbegun := ih f hmem
        · exact ⟨d, _, d.restart, ⟨h, .start, hnew.symm ▸ hmem, hnew.symm ▸ .start⟩,
            .restart d hnew⟩
        · exact hbegun
      obtain ⟨d₁, fs₁, d₂, halone, hshadow⟩ := hbegun
      obtain ⟨d₂', hstep₂, hshadow'⟩ := hshadow.step hfirst (halone.together hd hfs) hstep
      refine .inr ⟨d₁, fs₁, d₂', ⟨halone.before, .step halone.since hstep, ?_, ?_⟩, hshadow'⟩
      · rw [hstep.new]
        exact halone.waiting
      · rw [hstep.new]
        exact halone.alone.first hstep₂
    · obtain hnew | ⟨d₁, fs₁, d₂, halone, hshadow⟩ := ih g (List.perm_middle.mem_iff.2 (.tail _ hg))
      · exact .inl hnew
      · by_cases hnew : g.new = g
        · exact .inl hnew
        · obtain ⟨e, hmoves⟩ :=
            hstep.moves hfirst.kept (hfirst.sound _ (.head _)) (hfirst.seen (.head _))
          exact .inr ⟨d₁, fs₁, d₂, { halone with since := .step halone.since hstep },
            hshadow.others hmoves hnew⟩

namespace Flight

/-- What passed between the relay and what it heard. -/
def Stage.exchanges : Stage → List Exchange
  | relaying _ _ log => log
  | left _ _ log _ => log
  | _ => []

/-- What the relay has heard. -/
def heard (f : Flight) : List Relay.Event := f.stage.exchanges.map (·.event)

/-- The refusal, or the response and the bytes of its body so far. -/
def replied? (f : Flight) : Option (Except Refusal (Http.Response × Reply.Bytes)) :=
  match f.stage with
  | .refused r => some (.error r)
  | .relaying response _ log => some (.ok (response, Relay.sent log))
  | .left response _ log _ => some (.ok (response, Relay.sent log))
  | _ => none

/-- Where a reply comes from. -/
def Came (f : Flight) : Prop :=
  match f.stage with
  | .refused r => f.work.Ran f.asked (.error r)
  | .relaying response relay log => f.work.Ran f.asked (.ok response) ∧
    ∃ first stream, response.body = .reply first stream ∧ Relay.Run first log relay
  | .left response relay log _ => f.work.Ran f.asked (.ok response) ∧
    ∃ first stream, response.body = .reply first stream ∧ Relay.Run first log relay
  | _ => True

lemma Step.came (h : Step d f d' f') (hf : f.Came) : f'.Came := by
  cases h with
  | asks hstage =>
    rw [Came, ask, hstage]
    exact trivial
  | refused _ hran => exact hran
  | dropped => exact trivial
  | answered _ hran hbody => exact ⟨hran, _, _, hbody, .start⟩
  | heard hstage h =>
    rw [Came, hstage] at hf
    obtain ⟨hran, first, stream, hbody, hrun⟩ := hf
    exact ⟨hran, first, stream, hbody, .step hrun h.answers⟩
  | left hstage =>
    rw [Came, hstage] at hf
    exact hf
  | tidied hstage =>
    rw [Came, hstage] at hf
    exact hf

/-- How a flight came to reply. -/
inductive Replies (f : Flight) : Except Refusal (Http.Response × Reply.Bytes) → Prop
  | refused {r : Refusal} (hran : f.work.Ran f.asked (.error r)) : Replies f (.error r)
  | answered {response : Http.Response} {first relay : Relay} {stream : Stream}
    {log : List Exchange} (hran : f.work.Ran f.asked (.ok response))
    (hbody : response.body = .reply first stream) (hrun : Relay.Run first log relay)
    (hheard : f.heard = log.map (·.event)) : Replies f (.ok (response, Relay.sent log))

lemma Came.replies {out : Except Refusal (Http.Response × Reply.Bytes)} (hf : f.Came)
    (hout : f.replied? = some out) : Replies f out := by
  obtain ⟨default, chat, sending, asked, stage⟩ := f
  cases stage with
  | handling => cases hout
  | refused r =>
    cases hout
    exact .refused hf
  | dropped => cases hout
  | relaying response relay log =>
    cases hout
    obtain ⟨hran, first, stream, hbody, hrun⟩ := hf
    exact .answered hran hbody hrun rfl
  | left response relay log cleanup =>
    cases hout
    obtain ⟨hran, first, stream, hbody, hrun⟩ := hf
    exact .answered hran hbody hrun rfl

/-- A flight replies what its work and its relay make of the replies and the events that they got.
-/
theorem Came.unique {g : Flight} (hf : f.Came) (hg : g.Came) (hnew : f.new = g.new)
    (hasked : f.asked = g.asked) (hheard : f.heard = g.heard)
    {out out' : Except Refusal (Http.Response × Reply.Bytes)} (hout : f.replied? = some out)
    (hout' : g.replied? = some out') : out = out' := by
  have hwork : f.new.work = g.new.work := by rw [hnew]
  have hran {a b : Except Refusal Http.Response} (ha : f.work.Ran f.asked a)
      (hb : g.work.Ran g.asked b) : a = b := by
    have hb' : f.new.work.Ran f.asked b := by
      rw [hwork, hasked]
      exact hb
    exact Task.Ran.unique ha hb'
  cases hf.replies hout with
  | refused ha =>
    cases hg.replies hout' with
    | refused hb =>
      cases hran ha hb
      rfl
    | answered hb => cases hran ha hb
  | answered ha hbody hrun hheard₁ =>
    cases hg.replies hout' with
    | refused hb => cases hran ha hb
    | answered hb hbody' hrun' hheard₂ =>
      obtain rfl := Except.ok.inj (hran ha hb)
      obtain ⟨rfl, -⟩ := Body.reply.inj (hbody.symm.trans hbody')
      obtain ⟨rfl, -⟩ := Relay.run_unique hrun hrun' (hheard₁.symm.trans (hheard.trans hheard₂))
      rfl

end Flight

end Parley
