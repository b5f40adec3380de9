import Parley.Proofs.Reply.Relay
import Parley.Proofs.Server.World
import Parley.Server.Body

/-!
# Sessions of a relay

A `Session` is a run of a relay that is answered by a model's stream and the stores of a world,
while time may pass in between. Pulling a body goes on with the session of its relay, up to the next
bytes or up to a wait that is broken off (`pull_pulled`).
-/

namespace Parley

open Relay (Demand Exchange sent)

/-- What an item of a stream, or its end, is to a relay. -/
def Relay.Event.ofItem : Option Item → Relay.Event
  | some (.ok text) => .delta text
  | some (.error _) => .failed
  | none => .ended

namespace World

/-- What comes of a demand, and the stream after it, or nothing if the wait for it is broken off. -/
def hear (w : World) (s : Stream) : Demand → Option (Relay.Event × Stream) × World
  | .item =>
    let (item, t, next) := s.next w.now w.cancelAt
    match w.wait t with
    | (false, w) => (none, w)
    | (true, w) => (some (.ofItem item, next), w)
  | .save id content =>
    let (answer, w) := w.askChats (.updateMessage id content)
    (answer.map fun outcome => (.saved outcome, s), w)
  | .discard id =>
    let (answer, w) := w.askChats (.deleteMessage id)
    (answer.map fun outcome => (.discarded outcome, s), w)
  | .nothing => (none, w)

end World

/-- The exchanges of a relay, from one world and stream to another. -/
inductive Session (w : World) (s : Stream) (r : Relay) :
    List Exchange → World → Stream → Relay → Prop
  | start : Session w s r [] w s r
  | heard {log : List Exchange} {w₁ w₂ : World} {s₁ s₂ : Stream} {r₁ : Relay} {e : Relay.Event}
    (h : Session w s r log w₁ s₁ r₁) (he : w₁.hear s₁ r₁.demand = (some (e, s₂), w₂)) :
    Session w s r (log ++ [r₁.exchange e]) w₂ s₂ (r₁.step e).1
  | pause {log : List Exchange} {w₁ : World} {s₁ : Stream} {r₁ : Relay}
    (h : Session w s r log w₁ s₁ r₁) (t : Nat) : Session w s r log (w₁.advance t) s₁ r₁
  | within {log : List Exchange} {w₁ : World} {s₁ : Stream} {r₁ : Relay}
    (h : Session w s r log w₁ s₁ r₁) (cutoff : Option Nat) :
    Session w s r log { w₁ with cutoff } s₁ r₁

variable {w w₁ w₂ : World} {s s₁ s₂ : Stream} {r r₁ r₂ : Relay} {log log' : List Exchange}

lemma Session.trans (h : Session w s r log w₁ s₁ r₁) (h' : Session w₁ s₁ r₁ log' w₂ s₂ r₂) :
    Session w s r (log ++ log') w₂ s₂ r₂ := by
  induction h' with
  | start => rwa [List.append_nil]
  | heard _ he ih =>
    rw [← List.append_assoc]
    exact ih.heard he
  | pause _ t ih => exact ih.pause t
  | within _ cutoff ih => exact ih.within cutoff

/-- The messages that a demand is about. -/
def Relay.Demand.messageIds : Demand → List Id
  | .save id _ => [id]
  | .discard id => [id]
  | _ => []

lemma hear_item {answer : Option (Relay.Event × Stream)} (h : w.hear s .item = (answer, w₁)) :
    ∃ item t next, s.next w.now w.cancelAt = (item, t, next) ∧
      ((answer = none ∧ w.wait t = (false, w₁)) ∨
        (answer = some (.ofItem item, next) ∧ w.wait t = (true, w₁))) := by
  refine ⟨_, _, _, rfl, ?_⟩
  simp only [World.hear] at h
  split at h
  · next hwait =>
    cases h
    exact .inl ⟨rfl, hwait⟩
  · next hwait =>
    cases h
    exact .inr ⟨rfl, hwait⟩

lemma hear_save {id : Id} {content : String} {answer : Option (Relay.Event × Stream)}
    (h : w.hear s (.save id content) = (answer, w₁)) :
    ∃ reply, w.askChats (.updateMessage id content) = (reply, w₁) ∧
      answer = reply.map fun outcome => (.saved outcome, s) := by
  rcases hask : w.askChats (.updateMessage id content) with ⟨reply, w₂⟩
  rw [World.hear, hask] at h
  cases h
  exact ⟨reply, rfl, rfl⟩

lemma hear_discard {id : Id} {answer : Option (Relay.Event × Stream)}
    (h : w.hear s (.discard id) = (answer, w₁)) :
    ∃ reply, w.askChats (.deleteMessage id) = (reply, w₁) ∧
      answer = reply.map fun outcome => (.discarded outcome, s) := by
  rcases hask : w.askChats (.deleteMessage id) with ⟨reply, w₂⟩
  rw [World.hear, hask] at h
  cases h
  exact ⟨reply, rfl, rfl⟩

lemma hear_answers {d : Demand} {e : Relay.Event} (h : w.hear s d = (some (e, s₁), w₁)) :
    Relay.Answers d e := by
  cases d with
  | item =>
    obtain ⟨item, t, next, -, ⟨hanswer, -⟩ | ⟨hanswer, -⟩⟩ := hear_item h <;> cases hanswer
    rcases item with _ | _ | text
    · exact .ended
    · exact .failed
    · exact .delta text
  | save id content =>
    obtain ⟨_ | outcome, -, hanswer⟩ := hear_save h <;> cases hanswer
    exact .saved id content outcome
  | discard id =>
    obtain ⟨_ | outcome, -, hanswer⟩ := hear_discard h <;> cases hanswer
    exact .discarded id outcome
  | nothing => cases h

/-- Waiting for an answer touches only the messages it is about, and those that are being deleted
anyway. No answer is lost where work is not broken off. -/
theorem hear_spares {d : Demand} {answer : Option (Relay.Event × Stream)} {ids : List Id}
    (h : w.hear s d = (answer, w₁)) (hw : ∀ c ∈ w.cleanups, c.messageId ∈ ids)
    (hd : ∀ id ∈ d.messageIds, id ∈ ids) :
    w.Spares ids w₁ ∧ w₁.cutoff = w.cutoff ∧
      (answer = none → d ≠ .nothing → w.cutoff ≠ none) := by
  cases d with
  | item =>
    obtain ⟨item, t, next, -, ⟨rfl, hwait⟩ | ⟨rfl, hwait⟩⟩ := hear_item h
    · have hcutoff := World.wait_cutoff hwait
      exact ⟨World.wait_spares hw hwait, hcutoff.1, fun _ _ h => by simpa using hcutoff.2 h⟩
    · have hcutoff := World.wait_cutoff hwait
      exact ⟨World.wait_spares hw hwait, hcutoff.1, fun h => (by cases h)⟩
  | save id content =>
    obtain ⟨reply, hask, rfl⟩ := hear_save h
    obtain ⟨hspares, hcutoff, hlost⟩ :=
      World.askChats_spares hask hw rfl (hd id (List.mem_singleton_self id))
    exact ⟨hspares, hcutoff, fun h _ => hlost (Option.map_eq_none_iff.1 h)⟩
  | discard id =>
    obtain ⟨reply, hask, rfl⟩ := hear_discard h
    obtain ⟨hspares, hcutoff, hlost⟩ :=
      World.askChats_spares hask hw rfl (hd id (List.mem_singleton_self id))
    exact ⟨hspares, hcutoff, fun h _ => hlost (Option.map_eq_none_iff.1 h)⟩
  | nothing =>
    cases h
    exact ⟨.refl ids w, rfl, fun _ h => absurd rfl h⟩

lemma hear_cutoff {d : Demand} {answer : Option (Relay.Event × Stream)}
    (h : w.hear s d = (answer, w₁)) :
    w₁.cutoff = w.cutoff ∧ (answer = none → d ≠ .nothing → w.cutoff ≠ none) :=
  (hear_spares h (fun c hc => List.mem_append_left d.messageIds (World.mem_doomed c hc))
    (fun _ hid => List.mem_append_right _ hid)).2

theorem Session.run (h : Session w s r log w₁ s₁ r₁) : Relay.Run r log r₁ := by
  induction h with
  | start => exact .start
  | heard _ he ih => exact ih.step (hear_answers he)
  | pause _ _ ih => exact ih
  | within _ _ ih => exact ih

/-- What a pull brings of a session: the bytes of its exchanges, or nothing as the relay is settled,
or nothing as a wait was broken off before there were bytes. -/
inductive Pulled (w : World) (s : Stream) (r : Relay) :
    Pull → List Exchange → World → Stream → Relay → Prop
  | chunk {log : List Exchange} {w₁ : World} {s₁ : Stream} {r₁ : Relay}
    (h : Session w s r log w₁ s₁ r₁) (hsent : sent log ≠ []) (hcutoff : w₁.cutoff = w.cutoff) :
    Pulled w s r (.chunk (sent log)) log w₁ s₁ r₁
  | settled (hr : r.phase = .settled) : Pulled w s r .over [] w s r
  | pending {log : List Exchange} {w₁ w₂ : World} {s₁ : Stream} {r₁ : Relay}
    (h : Session w s r log w₁ s₁ r₁) (hsent : sent log = [])
    (hlost : w₁.hear s₁ r₁.demand = (none, w₂)) (hcutoff : w.cutoff ≠ none) :
    Pulled w s r .pending log w₂ s₁ r₁

variable {p : Pull}

lemma Session.once {e : Relay.Event} (h : w.hear s r.demand = (some (e, s₁), w₁)) :
    Session w s r [r.exchange e] w₁ s₁ (r.step e).1 := start.heard h

lemma sent_exchange (r : Relay) (e : Relay.Event) : sent [r.exchange e] = (r.step e).2 :=
  List.append_nil _

lemma Pulled.once {e : Relay.Event} (h : w.hear s r.demand = (some (e, s₁), w₁))
    (hsent : (r.step e).2 ≠ []) :
    Pulled w s r (.chunk (r.step e).2) [r.exchange e] w₁ s₁ (r.step e).1 := by
  rw [← sent_exchange] at hsent ⊢
  exact .chunk (Session.once h) hsent (hear_cutoff h).1

lemma Pulled.lost (h : w.hear s r.demand = (none, w₁)) (hr : r.phase ≠ .settled) :
    Pulled w s r .pending [] w₁ s r :=
  .pending .start rfl h ((hear_cutoff h).2 rfl (mt Relay.demand_eq_nothing_iff.1 hr))

lemma Pulled.after {e : Relay.Event} (h : w.hear s r.demand = (some (e, s₁), w₁))
    (hsent : (r.step e).2 = []) (hp : Pulled w₁ s₁ (r.step e).1 p log w₂ s₂ r₂)
    (hover : p ≠ .over) : Pulled w s r p (r.exchange e :: log) w₂ s₂ r₂ := by
  have honce := Session.once h
  have hcutoff := (hear_cutoff h).1
  have hsum (log : List Exchange) : sent (r.exchange e :: log) = sent log := by
    rw [← List.singleton_append, Relay.sent_append, sent_exchange, hsent, List.nil_append]
  cases hp with
  | chunk h' hsent' hcutoff' =>
    rw [← hsum log] at hsent' ⊢
    exact .chunk (honce.trans h') hsent' (hcutoff'.trans hcutoff)
  | settled => exact absurd rfl hover
  | pending h' hsent' hlost hcutoff' =>
    exact .pending (honce.trans h') ((hsum log).trans hsent') hlost (hcutoff ▸ hcutoff')

@[simp] lemma encodeStatus_ne_nil (s : Reply.Status) : Reply.encodeStatus s ≠ [] := by
  simp [Reply.encodeStatus, Reply.sentinel]

lemma hear_listening {item : Option Item} {t : Nat} {next : Stream} {done : Bool}
    (hr : r.phase = .listening) (hnext : s.next w.now w.cancelAt = (item, t, next))
    (hwait : w.wait t = (done, w₁)) :
    w.hear s r.demand = (if done then some (.ofItem item, next) else none, w₁) := by
  rw [Relay.demand, hr, World.hear, hnext]
  simp only [hwait]
  cases done <;> rfl

lemma hear_saving {answer : Option (Except StoreError Bool)} (hr : r.phase = .saving)
    (hask : w.askChats (.updateMessage r.messageId r.turn.aiText) = (answer, w₁)) (s : Stream) :
    w.hear s r.demand = (answer.map fun outcome => (.saved outcome, s), w₁) := by
  rw [Relay.demand, hr, World.hear, hask]

lemma hear_discarding {answer : Option (Except StoreError Bool)} (hr : r.phase = .discarding)
    (hask : w.askChats (.deleteMessage r.messageId) = (answer, w₁)) (s : Stream) :
    w.hear s r.demand = (answer.map fun outcome => (.discarded outcome, s), w₁) := by
  rw [Relay.demand, hr, World.hear, hask]

lemma discard_pulled (hr : r.phase = .discarding) (s : Stream)
    (h : w.discard r = (p, r₁, w₁)) : ∃ log, Pulled w s r p log w₁ s r₁ ∧ p ≠ .over := by
  unfold World.discard at h
  rcases hask : w.askChats (.deleteMessage r.messageId) with ⟨_ | outcome, w₂⟩ <;>
    rw [hask] at h <;> cases h
  · exact ⟨[], .lost (hear_discarding hr hask s) (by simp [hr]), by simp⟩
  · have hsent : (r.step (.discarded outcome)).2 ≠ [] := by simp [Relay.step, hr, Relay.settle]
    exact ⟨_, .once (hear_discarding hr hask s) hsent, by simp⟩

lemma save_pulled (hr : r.phase = .saving) (s : Stream)
    (h : w.save r = (p, r₁, w₁)) : ∃ log, Pulled w s r p log w₁ s r₁ ∧ p ≠ .over := by
  unfold World.save at h
  rcases hask : w.askChats (.updateMessage r.messageId r.turn.aiText) with ⟨_ | outcome, w₂⟩ <;>
    rw [hask] at h
  · cases h
    exact ⟨[], .lost (hear_saving hr hask s) (by simp [hr]), by simp⟩
  · have hheard := hear_saving hr hask s
    have hstep : ((r.step (.saved outcome)).1.phase = .discarding ∧
          (r.step (.saved outcome)).2 = []) ∨
        ((r.step (.saved outcome)).1.phase ≠ .discarding ∧
          (r.step (.saved outcome)).2 ≠ []) := by
      rcases outcome with e | _ | _ <;> simp [Relay.step, hr, Relay.settle]
    dsimp only at h
    rcases hstep with ⟨hphase, hsent⟩ | ⟨hphase, hsent⟩
    · rw [if_pos hphase] at h
      obtain ⟨log, hpulled, hover⟩ := discard_pulled hphase s h
      exact ⟨_, hpulled.after hheard hsent hover, hover⟩
    · rw [if_neg hphase] at h
      cases h
      exact ⟨_, .once hheard hsent, by simp⟩

lemma listen_pulled (hr : r.phase = .listening) (h : w.listen r s = (p, r₁, s₁, w₁)) :
    ∃ log, Pulled w s r p log w₁ s₁ r₁ ∧ p ≠ .over := by
  -- A delta may send nothing, and then the relay listens on to a shorter feed.
  induction hn : s.feed.items.length using Nat.strongRecOn generalizing w s r with
  | ind n ih =>
  rw [World.listen] at h
  split at h
  next item t next hnext =>
  rcases hwait : w.wait t with ⟨_ | _, w₂⟩ <;> rw [hwait] at h
  · cases h
    exact ⟨[], .lost (hear_listening hr hnext hwait) (by simp [hr]), by simp⟩
  · have hheard := hear_listening hr hnext hwait
    dsimp only at h
    split at h
    · next text _ =>
      have hphase : (r.step (.delta text)).1.phase = .listening := by simp [Relay.step, hr]
      split_ifs at h with hsent
      · obtain ⟨log, hpulled, hover⟩ := ih _ (hn ▸ Stream.length_next hnext) hphase h rfl
        exact ⟨_, hpulled.after hheard (List.isEmpty_iff.1 hsent) hover, hover⟩
      · cases h
        exact ⟨_, .once hheard (mt List.isEmpty_iff.2 hsent), by simp⟩
    · have hphase : (r.step .failed).1.phase = .discarding := by simp [Relay.step, hr]
      have hsent : (r.step .failed).2 = [] := by simp [Relay.step, hr]
      rcases hdiscard : w₂.discard (r.step .failed).1 with ⟨p', r', w'⟩
      rw [hdiscard] at h
      cases h
      obtain ⟨log, hpulled, hover⟩ := discard_pulled hphase s₁ hdiscard
      exact ⟨_, hpulled.after hheard hsent hover, hover⟩
    · have hphase : (r.step .ended).1.phase = .saving := by simp [Relay.step, hr]
      have hsent : (r.step .ended).2 = [] := by simp [Relay.step, hr]
      rcases hsave : w₂.save (r.step .ended).1 with ⟨p', r', w'⟩
      rw [hsave] at h
      cases h
      obtain ⟨log, hpulled, hover⟩ := save_pulled hphase s₁ hsave
      exact ⟨_, hpulled.after hheard hsent hover, hover⟩

/-- Pulling the body of a reply goes on with the session of its relay. -/
theorem pull_pulled {b : Body} (h : w.pull (.reply r s) = (p, b, w₁)) :
    ∃ log s₁ r₁, b = .reply r₁ s₁ ∧ Pulled w s r p log w₁ s₁ r₁ := by
  rw [World.pull] at h
  cases hr : r.phase with
  | listening =>
    simp only [hr] at h
    cases h
    obtain ⟨log, hpulled, -⟩ := listen_pulled hr (s := s) (w := w) rfl
    exact ⟨log, _, _, rfl, hpulled⟩
  | saving =>
    simp only [hr] at h
    cases h
    obtain ⟨log, hpulled, -⟩ := save_pulled hr s (w := w) rfl
    exact ⟨log, _, _, rfl, hpulled⟩
  | discarding =>
    simp only [hr] at h
    cases h
    obtain ⟨log, hpulled, -⟩ := discard_pulled hr s (w := w) rfl
    exact ⟨log, _, _, rfl, hpulled⟩
  | settled =>
    simp only [hr] at h
    cases h
    exact ⟨[], s, r, rfl, .settled hr⟩

end Parley
