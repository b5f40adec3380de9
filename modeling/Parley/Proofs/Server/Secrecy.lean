import Parley.Model.Script
import Parley.Proofs.Server.Discretion
import Parley.Proofs.Server.Likeness

/-!
# What clients see of errors

A client sends requests and reads, leaves or drops the bodies of the responses, in any order, while
time passes. What it gets to see is the same in worlds that differ in the errors of failing calls
alone (`World.Like.sights`).
-/

namespace Parley

lemma Stream.Like.next {s s' : Stream} (h : s.Like s') (now : Nat) (cancelAt : Option Nat) :
    ∃ item item' t n n', s.next now cancelAt = (item, t, n) ∧
      s'.next now cancelAt = (item', t, n') ∧ Option.Rel (Agree Eq) item item' ∧ n.Like n' := by
  obtain ⟨⟨items, _⟩, _, _, _⟩ := s
  obtain ⟨⟨items', ending⟩, deadline, limit, closed⟩ := s'
  obtain ⟨⟨hitems, rfl⟩, rfl, rfl, rfl⟩ := h
  cases closed with
  | true => exact ⟨none, none, now, _, _, rfl, rfl, .none, ⟨hitems, rfl⟩, rfl, rfl, rfl⟩
  | false =>
    cases hitems with
    | nil =>
      simp only [Stream.next, Bool.false_eq_true, if_false]
      rcases Clock.await now ending.after ending.ahead deadline cancelAt with ⟨_ | _ | _, t⟩
      · exact ⟨_, _, _, _, _, rfl, rfl, .none, ⟨.nil, rfl⟩, rfl, rfl, rfl⟩
      · exact ⟨_, _, _, _, _, rfl, rfl, .some (.failed _ _), ⟨.nil, rfl⟩, rfl, rfl, rfl⟩
      · exact ⟨_, _, _, _, _, rfl, rfl, .some (.failed _ _), ⟨.nil, rfl⟩, rfl, rfl, rfl⟩
    | @cons item item' rest rest' hitem hrest =>
      simp only [Stream.next, Bool.false_eq_true, if_false]
      rw [hitem.after, hitem.ahead]
      have hitems : List.Forall₂ (Delayed.Like (Agree Eq)) (item :: rest) (item' :: rest') :=
        .cons hitem hrest
      rcases Clock.await now item.after item.ahead deadline cancelAt with ⟨_ | _ | _, t⟩
      · have hvalue := hitem.value
        generalize item.value = value, item'.value = value' at hvalue
        cases hvalue with
        | failed e e' =>
          exact ⟨_, _, _, _, _, rfl, rfl, .some (.failed e e'), ⟨hrest, rfl⟩, rfl, rfl, rfl⟩
        | done htext =>
          cases htext
          exact ⟨_, _, _, _, _, rfl, rfl, .some (.done rfl), ⟨hrest, rfl⟩, rfl, rfl, rfl⟩
      · exact ⟨_, _, _, _, _, rfl, rfl, .some (.failed _ _), ⟨hitems, rfl⟩, rfl, rfl, rfl⟩
      · exact ⟨_, _, _, _, _, rfl, rfl, .some (.failed _ _), ⟨hitems, rfl⟩, rfl, rfl, rfl⟩

/-- A relay does not look at the error of a write. -/
lemma Relay.step_saved {o o' : Except StoreError Bool} (h : Agree Eq o o') (r : Relay) :
    r.step (.saved o) = r.step (.saved o') := by
  cases h with
  | failed e e' =>
    unfold Relay.step
    cases r.phase <;> rfl
  | done h => rw [h]

lemma Relay.step_discarded (r : Relay) (o o' : Except StoreError Bool) :
    r.step (.discarded o) = r.step (.discarded o') := by
  unfold Relay.step
  cases r.phase <;> rfl

namespace World

variable {w w' : World} {r : Relay} {s s' : Stream} {b b' : Body}

/-- Listening, by what comes of the stream. -/
lemma listen_eq {item : Option Item} {t : Nat} {next : Stream}
    (h : s.next w.now w.cancelAt = (item, t, next)) (r : Relay) :
    w.listen r s = match w.wait t, item with
      | (false, w), _ => (.pending, r, s, w)
      | (true, w), some (.ok text) =>
        if (r.step (.delta text)).2.isEmpty then w.listen (r.step (.delta text)).1 next
        else (.chunk (r.step (.delta text)).2, (r.step (.delta text)).1, next, w)
      | (true, w), some (.error _) =>
        let (p, r, w) := w.discard (r.step .failed).1
        (p, r, next, w)
      | (true, w), none =>
        let (p, r, w) := w.save (r.step .ended).1
        (p, r, next, w) := by
  rw [World.listen]
  split
  next item' t' next' hnext =>
  cases hnext.symm.trans h
  rcases w.wait t with ⟨_ | _, _⟩ <;> rcases item with _ | _ | text <;> rfl

namespace Like

lemma discard (h : w.Like w') (r : Relay) : ∃ p r₁ v v', w.discard r = (p, r₁, v) ∧
    w'.discard r = (p, r₁, v') ∧ v.Like v' := by
  obtain ⟨o, o', v, v', hv, hv', ho, hasked⟩ := (h.askChats (.deleteMessage r.messageId)).parts
  simp only [World.discard, hv, hv']
  cases ho with
  | none => exact ⟨_, _, _, _, rfl, rfl, hasked⟩
  | @some o o' _ =>
    simp only [r.step_discarded o' o]
    exact ⟨_, _, _, _, rfl, rfl, hasked⟩

lemma save (h : w.Like w') (r : Relay) : ∃ p r₁ v v', w.save r = (p, r₁, v) ∧
    w'.save r = (p, r₁, v') ∧ v.Like v' := by
  obtain ⟨o, o', v, v', hv, hv', ho, hasked⟩ :=
    (h.askChats (.updateMessage r.messageId r.turn.aiText)).parts
  simp only [World.save, hv, hv']
  cases ho with
  | none => exact ⟨_, _, _, _, rfl, rfl, hasked⟩
  | @some o o' ho =>
    simp only [← r.step_saved ho]
    split_ifs
    · exact hasked.discard _
    · exact ⟨_, _, _, _, rfl, rfl, hasked⟩

lemma listen (h : w.Like w') (r : Relay) (hs : s.Like s') : ∃ p r₁ s₁ s₁' v v',
    w.listen r s = (p, r₁, s₁, v) ∧ w'.listen r s' = (p, r₁, s₁', v') ∧ s₁.Like s₁' ∧
      v.Like v' := by
  induction hn : s.feed.items.length using Nat.strongRecOn generalizing w w' r s s' with
  | ind n ih =>
  obtain ⟨item, item', t, next, next', hnext, hnext', hitem, hlike⟩ := hs.next w.now w.cancelAt
  rw [← h.now, ← h.cancelAt] at hnext'
  rw [listen_eq hnext, listen_eq hnext']
  obtain ⟨arrived, _, v, v', hv, hv', rfl, hwaited⟩ := (h.wait t).parts
  rw [hv, hv']
  cases arrived with
  | false => exact ⟨_, _, _, _, _, _, rfl, rfl, hs, hwaited⟩
  | true =>
    cases hitem with
    | none =>
      obtain ⟨p, r₁, u, u', hu, hu', hsaved⟩ := hwaited.save (r.step .ended).1
      simp only [hu, hu']
      exact ⟨_, _, _, _, _, _, rfl, rfl, hlike, hsaved⟩
    | some hitem =>
      cases hitem with
      | failed e e' =>
        obtain ⟨p, r₁, u, u', hu, hu', hdiscarded⟩ := hwaited.discard (r.step .failed).1
        simp only [hu, hu']
        exact ⟨_, _, _, _, _, _, rfl, rfl, hlike, hdiscarded⟩
      | @done text _ htext =>
        cases htext
        dsimp only
        split_ifs
        · exact ih _ (hn ▸ Stream.length_next hnext) hwaited _ hlike rfl
        · exact ⟨_, _, _, _, _, _, rfl, rfl, hlike, hwaited⟩

theorem pull (h : w.Like w') (hb : b.Like b') : ∃ p b₁ b₁' v v', w.pull b = (p, b₁, v) ∧
    w'.pull b' = (p, b₁', v') ∧ b₁.Like b₁' ∧ v.Like v' := by
  cases hb with
  | bytes chunks =>
    cases chunks with
    | nil => exact ⟨_, _, _, _, _, rfl, rfl, .bytes [], h⟩
    | cons chunk rest => exact ⟨_, _, _, _, _, rfl, rfl, .bytes rest, h⟩
  | @reply r s s' hs =>
    unfold World.pull
    cases hr : r.phase with
    | listening =>
      obtain ⟨p, r₁, s₁, s₁', v, v', hv, hv', hs₁, hlistened⟩ := h.listen r hs
      simp only [hr, hv, hv']
      exact ⟨_, _, _, _, _, rfl, rfl, .reply r₁ hs₁, hlistened⟩
    | saving =>
      obtain ⟨p, r₁, v, v', hv, hv', hsaved⟩ := h.save r
      simp only [hr, hv, hv']
      exact ⟨_, _, _, _, _, rfl, rfl, .reply r₁ hs, hsaved⟩
    | discarding =>
      obtain ⟨p, r₁, v, v', hv, hv', hdiscarded⟩ := h.discard r
      simp only [hr, hv, hv']
      exact ⟨_, _, _, _, _, rfl, rfl, .reply r₁ hs, hdiscarded⟩
    | settled =>
      simp only [hr]
      exact ⟨_, _, _, _, _, rfl, rfl, .reply r hs, h⟩

lemma pullWithin (h : w.Like w') (hb : b.Like b') (length : Nat) : ∃ p b₁ b₁' v v',
    w.pullWithin b length = (p, b₁, v) ∧ w'.pullWithin b' length = (p, b₁', v') ∧ b₁.Like b₁' ∧
      v.Like v' := by
  have hlimited : Like { w with cutoff := some (w.now + length) }
      { w' with cutoff := some (w'.now + length) } := { h with cutoff := by rw [h.now] }
  obtain ⟨p, b₁, b₁', v, v', hv, hv', hb₁, hpulled⟩ := hlimited.pull hb
  simp only [World.pullWithin, hv, hv']
  exact ⟨_, _, _, _, _, rfl, rfl, hb₁, { hpulled with cutoff := h.cutoff }⟩

lemma abandon (h : w.Like w') (hb : b.Like b') : (w.abandon b).Like (w'.abandon b') := by
  cases hb with
  | bytes chunks => exact h
  | @reply r s s' hs =>
    unfold World.abandon
    dsimp only
    split_ifs
    · obtain ⟨m, m', v, v', hv, hv', hm, hbegun⟩ := (h.begin .deleteMessage).parts
      have hdue : w'.now + (w'.trouble .deleteMessage).delay =
          w.now + (w.trouble .deleteMessage).delay := by
        rw [h.now, (h.trouble _).delay]
      simp only [hv, hv']
      exact { hbegun with
        cancelAt := congrArg some hbegun.now
        cleanups := List.rel_append hbegun.cleanups (.cons ⟨hdue, rfl, hm⟩ .nil) }
    · exact h

theorem serve (h : w.Like w') (default : String) (request : Http.Request) :
    Agrees (Option.Rel Http.Response.Like) (w.serve default request)
      (w'.serve default request) := by
  unfold World.serve
  rw [h.stamps]
  have hstart :
      Like { w with stamps := ((respond default request).run w.stamps).2, cancelAt := none }
      { w' with stamps := ((respond default request).run w.stamps).2, cancelAt := none } :=
    { h with stamps := rfl, cancelAt := rfl }
  exact (respond_like default request w.stamps).perform hstart

lemma serveWithin (h : w.Like w') (default : String) (request : Http.Request)
    (most : Option Nat) : Agrees (Option.Rel Http.Response.Like)
      (w.serveWithin default request most) (w'.serveWithin default request most) := by
  have hlimited : Like { w with cutoff := most.map (w.now + ·) }
      { w' with cutoff := most.map (w'.now + ·) } := { h with cutoff := by rw [h.now] }
  obtain ⟨response, response', v, v', hv, hv', hresponse, hserved⟩ :=
    (hlimited.serve default request).parts
  simp only [World.serveWithin, hv, hv']
  exact ⟨hresponse, { hserved with cutoff := rfl }⟩

end Like

end World

section Lists

variable {α : Type} {R : α → α → Prop} {l l' : List α}

lemma forall₂_getElem? (h : List.Forall₂ R l l') (n : Nat) : Option.Rel R l[n]? l'[n]? := by
  induction h generalizing n with
  | nil => exact .none
  | cons ha _ ih =>
    cases n with
    | zero => exact .some ha
    | succ n => exact ih n

lemma forall₂_set (h : List.Forall₂ R l l') (n : Nat) {a a' : α} (ha : R a a') :
    List.Forall₂ R (l.set n a) (l'.set n a') := by
  induction h generalizing n with
  | nil => exact .nil
  | cons hb hrest ih =>
    cases n with
    | zero => exact .cons ha hrest
    | succ n => exact .cons hb (ih n)

end Lists

/-- What a client may do. The bodies it was given are numbered. -/
inductive Act
  | send (request : Http.Request) (most : Option Nat)
  | pull (body : Nat) (within : Option Nat)
  | drop (body : Nat)
  | pause (length : Nat)

/-- What a client sees of it. -/
inductive Sight
  | head (status : Nat) (headers : List (String × String))
  | pulled (p : Pull)
  | nothing
  deriving DecidableEq

/-- A world, and the bodies of the responses that were given out in it. -/
structure Counter where
  world : World
  bodies : List Body

namespace Counter

def act (default : String) (d : Counter) : Act → Sight × Counter
  | .send request most =>
    match d.world.serveWithin default request most with
    | (some r, w) => (.head r.status r.headers, ⟨w, d.bodies ++ [r.body]⟩)
    | (none, w) => (.nothing, { d with world := w })
  | .pull n within =>
    match d.bodies[n]? with
    | some b =>
      let (p, b, w) := match within with
        | some length => d.world.pullWithin b length
        | none => d.world.pull b
      (.pulled p, ⟨w, d.bodies.set n b⟩)
    | none => (.nothing, d)
  | .drop n =>
    match d.bodies[n]? with
    | some b => (.nothing, ⟨d.world.abandon b, d.bodies.set n (.bytes [])⟩)
    | none => (.nothing, d)
  | .pause length => (.nothing, { d with world := d.world.advance (d.world.now + length) })

/-- What is seen of one act after the other. -/
def sights (default : String) : List Act → Counter → List Sight
  | [], _ => []
  | a :: rest, d =>
    let (sight, d) := d.act default a
    sight :: sights default rest d

structure Like (d d' : Counter) : Prop where
  world : d.world.Like d'.world
  bodies : List.Forall₂ Body.Like d.bodies d'.bodies

variable {d d' : Counter}

/-- An act looks the same from outside, and leaves the counters alike. -/
theorem Like.act (h : d.Like d') (default : String) (a : Act) :
    (d.act default a).1 = (d'.act default a).1 ∧
      (d.act default a).2.Like (d'.act default a).2 := by
  cases a with
  | send request most =>
    obtain ⟨response, response', w, w', hw, hw', hresponse, hserved⟩ :=
      (h.world.serveWithin default request most).parts
    simp only [Counter.act, hw, hw']
    cases hresponse with
    | none => exact ⟨rfl, hserved, h.bodies⟩
    | some hr =>
      exact ⟨congrArg₂ _ hr.status.symm hr.headers.symm, hserved,
        List.rel_append h.bodies (.cons hr.body .nil)⟩
  | pull n within =>
    have hbody := forall₂_getElem? h.bodies n
    simp only [Counter.act]
    generalize d.bodies[n]? = b, d'.bodies[n]? = b' at hbody
    cases hbody with
    | none => exact ⟨rfl, h⟩
    | some hb =>
      cases within with
      | none =>
        obtain ⟨p, b₁, b₁', w, w', hw, hw', hb₁, hpulled⟩ := h.world.pull hb
        simp only [hw, hw']
        exact ⟨trivial, hpulled, forall₂_set h.bodies n hb₁⟩
      | some length =>
        obtain ⟨p, b₁, b₁', w, w', hw, hw', hb₁, hpulled⟩ := h.world.pullWithin hb length
        simp only [hw, hw']
        exact ⟨trivial, hpulled, forall₂_set h.bodies n hb₁⟩
  | drop n =>
    have hbody := forall₂_getElem? h.bodies n
    simp only [Counter.act]
    generalize d.bodies[n]? = b, d'.bodies[n]? = b' at hbody
    cases hbody with
    | none => exact ⟨rfl, h⟩
    | some hb => exact ⟨rfl, h.world.abandon hb, forall₂_set h.bodies n (.bytes [])⟩
  | pause length =>
    refine ⟨rfl, ?_, h.bodies⟩
    simp only [Counter.act, h.world.now]
    exact h.world.advance _

lemma Like.sights (h : d.Like d') (default : String) (acts : List Act) :
    d.sights default acts = d'.sights default acts := by
  induction acts generalizing d d' with
  | nil => rfl
  | cons a rest ih =>
    obtain ⟨hsight, hlike⟩ := h.act default a
    exact congrArg₂ List.cons hsight (ih hlike)

end Counter

namespace World

/-- What a client sees that starts with no bodies. -/
def sights (w : World) (default : String) (acts : List Act) : List Sight :=
  Counter.sights default acts ⟨w, []⟩

/-- Whatever clients do, they see the same in worlds that differ in errors alone. -/
theorem errors_unseen {w w' : World} (h : w.Like w') (default : String) (acts : List Act) :
    w.sights default acts = w'.sights default acts :=
  Counter.Like.sights ⟨h, .nil⟩ default acts

/-- A stream breaks off after a word, and the message that holds the place of the reply cannot be
deleted. Of neither is more seen than that the reply is a failure. -/
theorem errors_unseen_cut : ∃ (w w' : World) (acts : List Act), w.Like w' ∧
    (w.trouble .deleteMessage).mishap 1 = some (.fails (.io "No space left on device")) ∧
    (w'.trouble .deleteMessage).mishap 1 = some (.fails .serialization) ∧
    w.sights "" acts = w'.sights "" acts ∧
    (w.sights "" acts).drop 1 = [.pulled (.chunk (Text.Utf8.ofString "hi")),
      .pulled (.chunk (Reply.encodeStatus .failure)), .pulled .over] := by
  let world (detail : String) (e : StoreError) : World :=
    { model := { stream := some (["hi"], .fail detail) : Script }.model
      stamps := ⟨fun n => ⟨.ofNat n, ⟨0, 0⟩⟩, 0⟩
      trouble := fun m =>
        if m = .deleteMessage then { mishap := fun _ => some (.fails e) } else {} }
  let request : Http.Request :=
    { method := "POST"
      path := "/api/chat".toList
      headers := [("content-type", "application/x-www-form-urlencoded")]
      body := Text.Utf8.ofString "intent=sendMessage&message=hello" }
  let acts : List Act := [.send request none, .pull 0 none, .pull 0 none, .pull 0 none]
  have hlike (detail detail' : String) (e e' : StoreError) :
      (world detail e).Like (world detail' e') :=
    { now := rfl
      cutoff := rfl
      cancelAt := rfl
      limits := rfl
      model :=
        { answer := fun _ _ => ⟨rfl, rfl, .done rfl⟩
          start := fun _ _ => ⟨rfl, rfl, .done
            ⟨.cons ⟨rfl, rfl, .done rfl⟩ (.cons ⟨rfl, rfl, .failed _ _⟩ .nil), rfl⟩⟩ }
      answered := rfl
      invocations := rfl
      streamed := rfl
      stamps := rfl
      chats := ⟨rfl, rfl, rfl, .none⟩
      agents := ⟨rfl, rfl, rfl, .none⟩
      trouble := fun m => by
        refine ⟨?_, fun n => ?_⟩ <;> dsimp only [world] <;> split_ifs
        · rfl
        · rfl
        · exact .some (.fails e e')
        · exact .none
      calls := rfl
      cleanups := .nil }
  have hseen : ((world "leaked" (.io "No space left on device")).sights "" acts).drop 1 =
      [.pulled (.chunk (Text.Utf8.ofString "hi")),
        .pulled (.chunk (Reply.encodeStatus .failure)), .pulled .over] := by
    decide +kernel
  have h := hlike "leaked" "" (.io "No space left on device") .serialization
  exact ⟨_, _, acts, h, rfl, rfl, errors_unseen h "" acts, hseen⟩

end World

end Parley
