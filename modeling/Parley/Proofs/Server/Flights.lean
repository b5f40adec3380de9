import Parley.Proofs.Server.Flight

/-!
# Messages in flight at one desk

Any number of flights share a desk and go on by turns, in any order (`Flying`). What the desk has of
the messages of each is then what that flight itself left (`Together`): a step that leaves all
messages but its own leaves what is known of the other flights.
-/

namespace Parley

open ChatEvent (left left_append left_untouched left_id)
open Sending (Draft)

/-- Flights go on one at a time, each where it stands. -/
inductive Flying (d₀ : Desk) (fs₀ : List Flight) : Desk → List Flight → Prop
  | start : Flying d₀ fs₀ d₀ fs₀
  | step {d d' : Desk} {front rest : List Flight} {f f' : Flight}
    (h : Flying d₀ fs₀ d (front ++ f :: rest)) (hstep : Flight.Step d f d' f') :
    Flying d₀ fs₀ d' (front ++ f' :: rest)

namespace Desk

/-- Nothing has happened yet, and the identifiers of all chats and messages are in use. -/
structure Starts (d : Desk) : Prop where
  distinct : d.ledger.Distinct
  firsts : ∀ c ∈ d.ledger.chats, c.id ∈ d.first ∧ ∀ m ∈ c.messages, m.id ∈ d.first
  events : d.events = []

/-- The same ledger, from which things are counted anew. -/
def restart (d : Desk) : Desk := { d with first := d.used, events := [] }

lemma Starts.kept {d : Desk} (h : d.Starts) : d.Kept d.ledger := by
  obtain ⟨l, first, events⟩ := d
  obtain rfl : events = [] := h.events
  exact .start h.distinct h.firsts

lemma Kept.restart {d : Desk} {l₀ : Ledger} (h : d.Kept l₀) : d.restart.Starts where
  distinct := h.distinct
  firsts c hc := by
    refine ⟨h.ids _ (List.mem_map.2 ⟨c, hc, rfl⟩), fun m hm => h.holds_used ⟨c, hc, ?_⟩⟩
    exact Ledger.hasMessage_iff.2 (List.mem_map.2 ⟨m, hm, rfl⟩)
  events := rfl

end Desk

variable {d d' d₀ : Desk} {l₀ : Ledger} {f f' g : Flight} {fs fs' fs₀ rest : List Flight}
  {e : Option ChatEvent} {m : Message} {id : Id}

lemma Flying.first (h : Flying d₀ fs₀ d (f :: rest)) (hstep : Flight.Step d f d' f') :
    Flying d₀ fs₀ d' (f' :: rest) :=
  @Flying.step _ _ _ _ [] rest _ _ h hstep

lemma Flying.new (h : Flying d₀ fs₀ d fs) : fs.map (·.new) = fs₀.map (·.new) := by
  induction h with
  | start => rfl
  | step _ hstep ih => rw [← ih, List.map_append, List.map_append, List.map_cons, hstep.new,
      ← List.map_cons]

/-- What has happened at the desk is what the flights have done, in some order, and each has left
the messages of the others alone. -/
structure Together (l₀ : Ledger) (d : Desk) (fs : List Flight) : Prop where
  kept : d.Kept l₀
  sound : ∀ f ∈ fs, f.Sound
  events : d.events.Perm (fs.flatMap (·.events))
  touched : ∀ f ∈ fs, ∀ x ∈ f.events, ∀ id, x.touched? = some id → id ∈ f.answers
  same : ∀ f ∈ fs, ∀ m ∈ f.posts, left d.events m = left f.events m
  owned : ∀ f ∈ fs, ∀ id ∈ f.draft.own?, id ∈ d.ledger.ids
  apart : (fs.filterMap (·.draft.own?)).Nodup

namespace Together

lemma perm (h : Together l₀ d fs) (hperm : fs.Perm fs') : Together l₀ d fs' where
  kept := h.kept
  sound f hf := h.sound f (hperm.mem_iff.2 hf)
  events := h.events.trans (hperm.flatMap_right _)
  touched f hf := h.touched f (hperm.mem_iff.2 hf)
  same f hf := h.same f (hperm.mem_iff.2 hf)
  owned f hf := h.owned f (hperm.mem_iff.2 hf)
  apart := (hperm.filterMap _).nodup_iff.1 h.apart

lemma posted (h : Together l₀ d fs) : d.posted.Perm (fs.flatMap (·.posts)) := by
  have hperm := h.events.filterMap (·.added?)
  rwa [List.filterMap_flatMap] at hperm

lemma mem_posted (h : Together l₀ d fs) (hf : f ∈ fs) (hm : m ∈ f.posts) : m ∈ d.posted :=
  h.posted.mem_iff.2 (List.mem_flatMap.2 ⟨f, hf, hm⟩)

lemma seen (h : Together l₀ d fs) (hf : f ∈ fs) : f.Seen d :=
  fun m hm => ⟨h.mem_posted hf hm, h.same f hf m hm⟩

lemma ids_used (h : Together l₀ d fs) (hf : f ∈ fs) (hid : id ∈ f.ids) : id ∈ d.used := by
  obtain ⟨m, hm, rfl⟩ := List.mem_map.1 hid
  exact Desk.posted_used (h.mem_posted hf hm)

/-- No message is of two flights. -/
lemma ids_apart (h : Together l₀ d (f :: rest)) (hg : g ∈ rest) (hm : m ∈ g.posts) :
    m.id ∉ f.ids := by
  have hnodup := (h.posted.map (·.id)).nodup_iff.1 h.kept.once
  rw [List.flatMap_cons, List.map_append] at hnodup
  refine fun hid => (List.nodup_append.1 hnodup).2.2 m.id hid m.id ?_ rfl
  exact List.mem_map.2 ⟨m, List.mem_flatMap.2 ⟨g, hg, hm⟩, rfl⟩

/-- A step of one flight leaves the messages of the others. -/
lemma left_others (h : Together l₀ d (f :: rest)) (hmoves : Flight.Moves d d' f f' e)
    (hg : g ∈ rest) (hm : m ∈ g.posts) : left (d.events ++ e.toList) m = left d.events m := by
  rw [left_append]
  cases hleft : left d.events m with
  | none => rfl
  | some m' =>
    refine left_untouched fun x hx hid => h.ids_apart hg hm ?_
    rw [← left_id hleft]
    exact f.answers_subset (hmoves.touched x (Option.mem_toList.1 hx) _ hid)

/-- What is added by a step is new to the desk and to the flight. -/
lemma left_added (h : Together l₀ d (f :: rest)) {l : Ledger} (hchanges : d.Changes l e)
    (hm : e = some (.added m)) : left d.events m = left f.events m := by
  have hnew : m.id ∉ d.used := hchanges.admits _ hm
  rw [h.kept.unused m hnew, left_untouched]
  intro x hx hid
  exact hnew (h.ids_used (.head _) (f.answers_subset (h.touched f (.head _) x hx _ hid)))

/-- The chats that are one's own stay, but for the one that is closed. -/
lemma owned_after (h : Together l₀ d (f :: rest)) {l : Ledger} (hchanges : d.Changes l e)
    (howns : Draft.Owns f.draft.own? e f'.draft.own?) (hg : g ∈ f' :: rest)
    (hid : id ∈ g.draft.own?) : id ∈ l.ids := by
  obtain rfl | hg := List.mem_cons.1 hg
  · generalize hown : f.draft.own? = own at howns
    generalize hown' : g.draft.own? = own' at howns hid
    cases howns with
    | kept => exact h.kept.ids_after hchanges (h.owned f (.head _) id (hown ▸ hid)) List.not_mem_nil
    | opened chat =>
      cases hid
      exact List.mem_map.2 ⟨chat, (hchanges.opened chat rfl).2, rfl⟩
    | given => cases hid
  · refine h.kept.ids_after hchanges (h.owned g (.tail _ hg) id hid) fun hclosed => ?_
    have hown : id ∈ f.draft.own? := by
      generalize f.draft.own? = own at howns
      generalize f'.draft.own? = own' at howns
      cases howns with
      | kept => cases hclosed
      | opened => cases List.mem_singleton.1 hclosed
      | given hown => exact hown id (Option.mem_toList.1 hclosed)
    have hapart := h.apart
    rw [List.filterMap_cons, Option.mem_def.1 hown] at hapart
    exact (List.nodup_cons.1 hapart).1 (List.mem_filterMap.2 ⟨g, hg, hid⟩)

lemma apart_after (h : Together l₀ d (f :: rest)) {l : Ledger} (hchanges : d.Changes l e)
    (howns : Draft.Owns f.draft.own? e f'.draft.own?) :
    ((f' :: rest).filterMap (·.draft.own?)).Nodup := by
  have hapart := h.apart
  rw [List.filterMap_cons] at hapart ⊢
  generalize f.draft.own? = own at howns hapart
  generalize f'.draft.own? = own' at howns ⊢
  cases howns with
  | kept => exact hapart
  | opened chat =>
    refine List.nodup_cons.2 ⟨fun hmem => ?_, hapart⟩
    obtain ⟨g, hg, hid⟩ := List.mem_filterMap.1 hmem
    exact hchanges.admits _ rfl (h.kept.ids _ (h.owned g (.tail _ hg) _ hid))
  | given =>
    cases own with
    | none => exact hapart
    | some id => exact (List.nodup_cons.1 hapart).2

theorem step (h : Together l₀ d (f :: rest)) (hmoves : Flight.Moves d d' f f' e) :
    Together l₀ d' (f' :: rest) := by
  obtain ⟨l, hchanges, rfl⟩ := hmoves.changes
  have hposts := hmoves.posts
  have hids {id : Id} (hid : id ∈ f.answers) : id ∈ f'.answers := by
    rw [Flight.answers, hposts, List.filter_append, List.map_append]
    exact List.mem_append_left _ hid
  constructor
  case kept => exact h.kept.after hchanges
  case sound =>
    exact List.forall_mem_cons.2 ⟨hmoves.sound, fun g hg => h.sound g (.tail _ hg)⟩
  case events =>
    have hperm := h.events.append_right e.toList
    rw [List.flatMap_cons, List.append_assoc] at hperm
    rw [List.flatMap_cons, hmoves.events, List.append_assoc]
    exact hperm.trans (List.perm_append_comm.append_left _)
  case touched =>
    refine List.forall_mem_cons.2 ⟨fun x hx id hid => ?_, fun g hg => h.touched g (.tail _ hg)⟩
    rw [hmoves.events] at hx
    obtain hx | hx := List.mem_append.1 hx
    · exact hids (h.touched f (.head _) x hx id hid)
    · exact hids (hmoves.touched x (Option.mem_toList.1 hx) id hid)
  case same =>
    refine List.forall_mem_cons.2 ⟨fun m hm => ?_, fun g hg m hm => ?_⟩
    · have hsame : left d.events m = left f.events m := by
        rw [hposts] at hm
        obtain hm | hm := List.mem_append.1 hm
        · exact h.same f (.head _) m hm
        · exact h.left_added hchanges (ChatEvent.mem_added?.1 hm)
      rw [Desk.after, hmoves.events, left_append, left_append, hsame]
    · exact (h.left_others hmoves hg hm).trans (h.same g (.tail _ hg) m hm)
  case owned => exact fun g hg id hid => h.owned_after hchanges hmoves.owns hg hid
  case apart => exact h.apart_after hchanges hmoves.owns

/-- Flights that have not begun. -/
lemma start (hd : d.Starts) (hfs : ∀ f ∈ fs, f.new = f) : Together d.ledger d fs := by
  have hevents (f : Flight) (hf : f ∈ fs) : f.events = [] := hfs f hf ▸ rfl
  have hposts (f : Flight) (hf : f ∈ fs) : f.posts = [] := hfs f hf ▸ rfl
  have hown (f : Flight) (hf : f ∈ fs) : f.draft.own? = none := hfs f hf ▸ rfl
  constructor
  case kept => exact hd.kept
  case sound => exact fun f hf => hfs f hf ▸ Flight.sound_new f
  case events =>
    rw [hd.events, List.flatMap_eq_nil_iff.2 hevents]
  case touched =>
    intro f hf x hx
    rw [hevents f hf] at hx
    cases hx
  case same =>
    intro f hf m hm
    rw [hposts f hf] at hm
    cases hm
  case owned =>
    intro f hf id hid
    rw [hown f hf] at hid
    cases hid
  case apart =>
    rw [List.filterMap_eq_nil_iff.2 hown]
    exact List.nodup_nil

end Together

theorem Flying.together (h : Flying d₀ fs₀ d fs) (hd : d₀.Starts) (hfs : ∀ f ∈ fs₀, f.new = f) :
    Together d₀.ledger d fs := by
  induction h with
  | start => exact .start hd hfs
  | step _ hstep ih =>
    have hfirst := ih.perm List.perm_middle
    obtain ⟨e, hmoves⟩ := hstep.moves hfirst.kept (hfirst.sound _ (.head _)) (hfirst.seen (.head _))
    exact (hfirst.step hmoves).perm List.perm_middle.symm

end Parley
