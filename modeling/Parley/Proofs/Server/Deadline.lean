import Parley.Proofs.Agent.Earlier
import Parley.Proofs.Agent.Single
import Parley.Proofs.Model.Stream
import Parley.Proofs.Server.World

/-!
# The deadline of a stream

A stream has to be opened by its deadline, and what is read from it has to come by that same
deadline; both only as long as the wait is not called off. So a reader who is there for every item
is given what the model sends in time, up to its first error, and after that only the one error
that says why there is no more (`Stream.reads_iff`). `Plan.run_bounded` says this of a run in a
world, from the moment in which the stream is asked for. There are two exceptions, and both happen
(`Plan.run_unbounded`): the clock may not get as far as the deadline, and what is there at once may
come although the wait was called off before (`Clock.Overtaken`).
-/

namespace Parley

namespace Clock

variable {now deadline t t' : Nat} {after cancelAt : Option Nat} {ahead : Bool}
  {instants instants' : List Nat}

/-- Before the deadline, and before the wait is called off. -/
def InTime (deadline : Nat) (cancelAt : Option Nat) (t : Nat) : Prop :=
  t < deadline ∧ ∀ c ∈ cancelAt, t < c

instance (deadline : Nat) (cancelAt : Option Nat) : DecidablePred (InTime deadline cancelAt) :=
  fun t => inferInstanceAs (Decidable (t < deadline ∧ ∀ c ∈ cancelAt, t < c))

lemma InTime.earlier (h : InTime deadline cancelAt t) (ht : t' ≤ t) :
    InTime deadline cancelAt t' :=
  ⟨Nat.lt_of_le_of_lt ht h.1, fun c hc => Nat.lt_of_le_of_lt ht (h.2 c hc)⟩

/-- What ends a wait that nothing comes of in time: the first of the deadline and the moment in
which it is called off. -/
def breach (deadline : Nat) (cancelAt : Option Nat) : Wait :=
  if ∃ c ∈ cancelAt, c < deadline then .cancelled else .expired

/-- When such a wait ends, if it started at `now`. -/
def breachAt (now deadline : Nat) (cancelAt : Option Nat) : Nat :=
  max now (cancelAt.elim deadline (min deadline))

/-- No two things happen at once: the deadline, the moment in which the wait is called off, and any
of these instants. -/
structure Apart (deadline : Nat) (cancelAt : Option Nat) (instants : List Nat) : Prop where
  deadline_ne : ∀ c ∈ cancelAt, c ≠ deadline
  ne : ∀ t ∈ instants, t ≠ deadline ∧ ∀ c ∈ cancelAt, c ≠ t

lemma Apart.of_subset (h : Apart deadline cancelAt instants) (hsubset : instants' ⊆ instants) :
    Apart deadline cancelAt instants' :=
  ⟨h.deadline_ne, fun t ht => h.ne t (hsubset ht)⟩

/-- What ends a wait is there when the wait starts, and is ahead of the calling off, which is there
as well. -/
structure Overtaken (now : Nat) (after : Option Nat) (ahead : Bool) (deadline : Nat)
    (cancelAt : Option Nat) : Prop where
  ahead : ahead = true
  off : ∃ c ∈ cancelAt, c ≤ now
  ready : after = some 0 ∨ deadline ≤ now

lemma not_overtaken (hon : ∀ c ∈ cancelAt, now < c) :
    ¬Overtaken now after ahead deadline cancelAt := by
  rintro ⟨-, ⟨c, hc, hnow⟩, -⟩
  exact absurd (hon c hc) (Nat.not_lt.2 hnow)

/-- A wait is called off by some other moment if the calling off is before that, unless it is
overtaken at the start. -/
lemma calledOff_iff (hnow : now ≤ t) (hapart : ∀ c ∈ cancelAt, c ≠ t)
    (hclear : ahead = true → t = now → ∀ c ∈ cancelAt, now < c) :
    CalledOff now ahead cancelAt t ↔ ∃ c ∈ cancelAt, c < t := by
  constructor
  · rintro ⟨c, hc, hbefore | ⟨-, hthen⟩⟩
    · exact ⟨c, hc, by omega⟩
    · have := hapart c hc
      exact ⟨c, hc, by omega⟩
  · rintro ⟨c, hc, hbefore⟩
    obtain hlater | rfl := Nat.lt_or_eq_of_le hnow
    · exact ⟨c, hc, .inl (Nat.max_lt.2 ⟨hlater, hbefore⟩)⟩
    · have hpast : c ≤ now := Nat.le_of_lt hbefore
      refine ⟨c, hc, .inr ⟨Bool.eq_false_iff.2 fun hahead => ?_, Nat.max_eq_left hpast⟩⟩
      exact absurd (hclear hahead rfl c hc) (Nat.not_lt.2 hpast)

/-- A wait that is called off before the deadline ends as soon as that is seen. -/
lemma breach_of_off (hoff : ∃ c ∈ cancelAt, c < deadline) :
    (Wait.cancelled, cancelAt.elim now (max now)) =
      (breach deadline cancelAt, breachAt now deadline cancelAt) := by
  rw [breach, if_pos hoff]
  obtain ⟨c, rfl, hc⟩ := hoff
  rw [breachAt, Option.elim_some, Option.elim_some, Nat.min_eq_right (Nat.le_of_lt hc)]

lemma breach_of_on (hnow : now ≤ deadline) (hon : ¬∃ c ∈ cancelAt, c < deadline) :
    (Wait.expired, deadline) = (breach deadline cancelAt, breachAt now deadline cancelAt) := by
  have hbreachAt : breachAt now deadline cancelAt = deadline := by
    cases cancelAt with
    | none => exact Nat.max_eq_right hnow
    | some c =>
      have hc : deadline ≤ c := Nat.not_lt.1 fun hlt => hon ⟨c, rfl, hlt⟩
      rw [breachAt, Option.elim_some, Nat.min_eq_left hc, Nat.max_eq_right hnow]
  rw [breach, if_neg hon, hbreachAt]

/-- A wait that starts before the deadline ends with what is waited for if that comes in time, and
else with whatever is first. -/
theorem await_apart (hnow : now ≤ deadline) (h : Apart deadline cancelAt instants)
    (hclear : ¬Overtaken now after ahead deadline cancelAt)
    (hcomes : ∀ d, after = some d → now + d ∈ instants) :
    (∃ d, after = some d ∧ InTime deadline cancelAt (now + d) ∧
        await now after ahead deadline cancelAt = (.arrived, now + d)) ∨
      ((∀ d, after = some d → ¬InTime deadline cancelAt (now + d)) ∧
        await now after ahead deadline cancelAt =
          (breach deadline cancelAt, breachAt now deadline cancelAt)) := by
  have hon (hready : after = some 0 ∨ deadline ≤ now) (hahead : ahead = true) :
      ∀ c ∈ cancelAt, now < c := fun c hc =>
    Nat.lt_of_not_le fun hle => hclear ⟨hahead, ⟨c, hc, hle⟩, hready⟩
  obtain ⟨d, rfl, htime, hfirst⟩ | ⟨hlate, hfirst⟩ := awaitOn_cases now after deadline
  · obtain ⟨hne, hapart⟩ := h.ne (now + d) (hcomes d rfl)
    have hclear' (hahead : ahead = true) (hd : now + d = now) : ∀ c ∈ cancelAt, now < c :=
      hon (.inl (congrArg some (Nat.left_eq_add.1 hd.symm))) hahead
    by_cases hoff : CalledOff now ahead cancelAt (now + d)
    · obtain ⟨c, hc, hbefore⟩ := (calledOff_iff (Nat.le_add_right _ _) hapart hclear').1 hoff
      refine .inr ⟨fun n hn hin => ?_, ?_⟩
      · obtain rfl := Option.some.inj hn
        exact absurd (hin.2 c hc) (Nat.not_lt.2 (Nat.le_of_lt hbefore))
      · exact (await_off hfirst hoff).trans (breach_of_off ⟨c, hc, by omega⟩)
    · refine .inl ⟨d, rfl, ⟨by omega, fun c hc => ?_⟩, await_on hfirst hoff⟩
      rw [calledOff_iff (Nat.le_add_right _ _) hapart hclear'] at hoff
      exact Nat.lt_of_le_of_ne (Nat.not_lt.1 fun hlt => hoff ⟨c, hc, hlt⟩) (hapart c hc).symm
  · rw [Nat.max_eq_left hnow] at hfirst hlate
    have hiff : CalledOff now ahead cancelAt deadline ↔ ∃ c ∈ cancelAt, c < deadline :=
      calledOff_iff hnow h.deadline_ne fun hahead hd => hon (.inr (Nat.le_of_eq hd)) hahead
    refine .inr ⟨fun d hd hin => absurd hin.1 (Nat.not_lt.2 (Nat.le_of_lt (hlate d hd))), ?_⟩
    by_cases hoff : CalledOff now ahead cancelAt deadline
    · exact (await_off hfirst hoff).trans (breach_of_off (hiff.1 hoff))
    · exact (await_on hfirst hoff).trans (breach_of_on hnow (hiff.not.1 hoff))

/-- Where the calling off is overtaken, the wait ends at once and as if there were none. -/
lemma await_overtaken (h : Overtaken now after ahead deadline cancelAt) :
    await now after ahead deadline cancelAt =
      (if after = some 0 then .arrived else .expired, now) := by
  have hfirst : awaitOn now after deadline =
      (if after = some 0 then .arrived else .expired, now) := by
    obtain ⟨d, rfl, htime, hfirst⟩ | ⟨hlate, hfirst⟩ := awaitOn_cases now after deadline
    · have hd : d = 0 := by
        obtain hready | hover := h.ready
        · exact Option.some.inj hready
        · omega
      rw [hfirst, hd, if_pos rfl, Nat.add_zero]
    · have hne : after ≠ some 0 := fun hready => absurd (hlate 0 hready) (by omega)
      rw [hfirst, if_neg hne, Nat.max_eq_right (h.ready.resolve_left hne)]
  refine await_on hfirst ?_
  rintro ⟨c, -, hbefore | ⟨hahead, -⟩⟩
  · exact absurd hbefore (Nat.not_lt.2 (Nat.le_max_left now c))
  · exact absurd h.ahead (by rw [hahead]; exact Bool.false_ne_true)

end Clock

open Clock

namespace Feed

variable {now deadline : Nat} {cancelAt : Option Nat} {ending : Delayed Unit}
  {items : List (Delayed Item)}

/-- What comes, and when, for someone who is there for every item from `now` on. After one that
never comes there is nothing more. -/
def arrivals (now : Nat) : List (Delayed Item) → List (Nat × Item)
  | ⟨some d, value, _⟩ :: rest => (now + d, value) :: arrivals (now + d) rest
  | _ => []

/-- When the feed ends for someone who is there for every item, if it ends at all. -/
def endsAt (ending : Delayed Unit) (now : Nat) : List (Delayed Item) → Option Nat
  | [] => ending.after.map (now + ·)
  | ⟨some d, _, _⟩ :: rest => endsAt ending (now + d) rest
  | ⟨none, _, _⟩ :: _ => none

/-- When something happens in a feed that is read from `now` on. -/
def instants (f : Feed) (now : Nat) : List Nat :=
  (arrivals now f.items).map (·.1) ++ (endsAt f.ending now f.items).toList

/-- The items that come in time. -/
def early (f : Feed) (now deadline : Nat) (cancelAt : Option Nat) : List Item :=
  ((arrivals now f.items).filter fun a => InTime deadline cancelAt a.1).map (·.2)

/-- The feed has ended or failed in time. -/
def IsOver (f : Feed) (now deadline : Nat) (cancelAt : Option Nat) : Prop :=
  (∃ item ∈ f.early now deadline cancelAt, item.isOk = false) ∨
    ∃ t ∈ endsAt f.ending now f.items, InTime deadline cancelAt t

instance (f : Feed) (now deadline : Nat) (cancelAt : Option Nat) :
    Decidable (f.IsOver now deadline cancelAt) :=
  inferInstanceAs (Decidable ((∃ item ∈ f.early now deadline cancelAt, item.isOk = false) ∨
    ∃ t ∈ endsAt f.ending now f.items, InTime deadline cancelAt t))

lemma le_of_arrives {a : Nat × Item} (h : a ∈ arrivals now items) : now ≤ a.1 := by
  induction items generalizing now with
  | nil => cases h
  | cons item rest ih =>
    obtain ⟨_ | d, value, ahead⟩ := item
    · cases h
    · obtain rfl | h := List.mem_cons.1 h
      · exact Nat.le_add_right now d
      · exact Nat.le_of_add_right_le (ih h)

lemma le_of_ends {t : Nat} (h : t ∈ endsAt ending now items) : now ≤ t := by
  induction items generalizing now with
  | nil =>
    obtain ⟨d, -, rfl⟩ := Option.map_eq_some_iff.1 h
    exact Nat.le_add_right now d
  | cons item rest ih =>
    obtain ⟨_ | d, value, ahead⟩ := item
    · cases h
    · exact Nat.le_of_add_right_le (ih h)

variable {after : Option Nat} {value : Item} {ahead : Bool} {rest : List (Delayed Item)} {d : Nat}

/-- What comes after an item that comes in time is early just as it would be without that item. -/
lemma early_cons (hd : InTime deadline cancelAt (now + d)) :
    early ⟨⟨some d, value, ahead⟩ :: rest, ending⟩ now deadline cancelAt =
      value :: early ⟨rest, ending⟩ (now + d) deadline cancelAt := by
  rw [early, arrivals, List.filter_cons_of_pos (by exact decide_eq_true hd), List.map_cons]
  rfl

lemma isOver_cons_iff (hd : InTime deadline cancelAt (now + d)) :
    IsOver ⟨⟨some d, value, ahead⟩ :: rest, ending⟩ now deadline cancelAt ↔
      value.isOk = false ∨ IsOver ⟨rest, ending⟩ (now + d) deadline cancelAt := by
  simp only [IsOver, early_cons hd, List.mem_cons, exists_eq_or_imp, or_assoc]
  rfl

/-- If an item does not come in time, then nothing does from there on. -/
lemma late_cons (hlate : ∀ d, after = some d → ¬InTime deadline cancelAt (now + d)) :
    early ⟨⟨after, value, ahead⟩ :: rest, ending⟩ now deadline cancelAt = [] ∧
      ¬IsOver ⟨⟨after, value, ahead⟩ :: rest, ending⟩ now deadline cancelAt := by
  have hearly : early ⟨⟨after, value, ahead⟩ :: rest, ending⟩ now deadline cancelAt = [] := by
    cases after with
    | none => rfl
    | some d =>
      refine List.map_eq_nil_iff.2 (List.filter_eq_nil_iff.2 fun a ha htime => hlate d rfl ?_)
      refine InTime.earlier (of_decide_eq_true htime) ?_
      obtain rfl | ha := List.mem_cons.1 ha
      · exact Nat.le_refl _
      · exact le_of_arrives ha
  refine ⟨hearly, ?_⟩
  rintro (⟨item, hitem, -⟩ | ⟨t, ht, htime⟩)
  · rw [hearly] at hitem
    cases hitem
  · cases after with
    | none => cases ht
    | some d => exact hlate d rfl (htime.earlier (le_of_ends ht))

end Feed

namespace Stream

variable {now deadline t : Nat} {limit : Span} {cancelAt : Option Nat} {s : Stream}
  {items items' : List Item}

/-- Items up to the first error, which is one of them. -/
def throughError : List Item → List Item
  | [] => []
  | .ok text :: rest => .ok text :: throughError rest
  | .error e :: _ => [.error e]

@[simp] lemma isOk_ok (text : String) : (.ok text : Item).isOk = true := rfl

/-- The error that says why nothing more comes. -/
def breach (limit : Span) (deadline : Nat) (cancelAt : Option Nat) : RunError :=
  if ∃ c ∈ cancelAt, c < deadline then .cancelled else .timeout limit

lemma breach_reply {α : Type} (value : Except RunError α) (limit : Nat) :
    (Clock.breach deadline cancelAt).reply value limit =
      .error (breach (.ofMillis limit) deadline cancelAt) := by
  unfold Clock.breach breach
  split_ifs <;> rfl

/-- What is given of a feed that is read from `now` on: all that comes in time, up to the first
error, and one error more if it is not over by then. -/
def given (f : Feed) (limit : Span) (now deadline : Nat) (cancelAt : Option Nat) : List Item :=
  throughError (f.early now deadline cancelAt) ++
    if f.IsOver now deadline cancelAt then [] else [.error (breach limit deadline cancelAt)]

lemma given_ok {text : String} {ahead : Bool} {rest : List (Delayed Item)} {ending : Delayed Unit}
    {d : Nat} (hd : InTime deadline cancelAt (now + d)) :
    given ⟨⟨some d, .ok text, ahead⟩ :: rest, ending⟩ limit now deadline cancelAt =
      .ok text :: given ⟨rest, ending⟩ limit (now + d) deadline cancelAt := by
  simp only [given, Feed.early_cons hd, Feed.isOver_cons_iff hd, throughError, isOk_ok,
    Bool.true_eq_false, false_or, List.cons_append]

lemma given_fault {e : RunError} {ahead : Bool} {rest : List (Delayed Item)} {ending : Delayed Unit}
    {d : Nat} (hd : InTime deadline cancelAt (now + d)) :
    given ⟨⟨some d, .error e, ahead⟩ :: rest, ending⟩ limit now deadline cancelAt = [.error e] := by
  rw [given, Feed.early_cons hd, if_pos ((Feed.isOver_cons_iff hd).2 (.inl rfl))]
  rfl

lemma given_late {f : Feed} (hearly : f.early now deadline cancelAt = [])
    (hover : ¬f.IsOver now deadline cancelAt) :
    given f limit now deadline cancelAt = [.error (breach limit deadline cancelAt)] := by
  rw [given, hearly, if_neg hover]
  rfl

/-- These are the items of a stream for someone who is there for every item from `now` on, and then
the stream ends. -/
inductive Reads (cancelAt : Option Nat) : Stream → Nat → List Item → Prop
  | ended {s s' : Stream} {now t : Nat} (h : s.next now cancelAt = (none, t, s')) :
    Reads cancelAt s now []
  | item {s s' : Stream} {now t : Nat} {item : Item} {items : List Item}
    (h : s.next now cancelAt = (some item, t, s')) (hrest : Reads cancelAt s' t items) :
    Reads cancelAt s now (item :: items)

lemma Reads.unique (h : Reads cancelAt s now items) (h' : Reads cancelAt s now items') :
    items = items' := by
  induction h generalizing items' with
  | ended hnext =>
    cases h' with
    | ended => rfl
    | item hnext' => cases hnext.symm.trans hnext'
  | item hnext _ ih =>
    cases h' with
    | ended hnext' => cases hnext.symm.trans hnext'
    | item hnext' hrest' =>
      cases hnext.symm.trans hnext'
      rw [ih hrest']

lemma reads_closed (h : s.closed = true) : Reads cancelAt s now [] := by
  have hnext : s.next now cancelAt = (none, now, s) := by rw [next, if_pos h]
  exact .ended hnext

/-- Nothing is read after an error. -/
lemma Reads.error_last (h : Reads cancelAt s now items) {front rest : List Item} {e : RunError}
    (hitems : items = front ++ .error e :: rest) : rest = [] := by
  induction h generalizing front with
  | ended => simp at hitems
  | @item s s' now t x xs hnext hrest ih =>
    cases front with
    | nil =>
      obtain ⟨rfl, rfl⟩ := List.cons.inj hitems
      have hcases := s.next_cases now cancelAt
      rw [hnext] at hcases
      have hclosed : s'.closed = true := by cases hcases <;> rfl
      exact hrest.unique (reads_closed hclosed)
    | cons y front => exact ih (List.cons.inj hitems).2

/-- The next thing that happens to a stream: its next item, or its end. -/
def wait (s : Stream) (now : Nat) (cancelAt : Option Nat) : Wait × Nat :=
  match s.feed.items with
  | [] => await now s.feed.ending.after s.feed.ending.ahead s.deadline cancelAt
  | item :: _ => await now item.after item.ahead s.deadline cancelAt

/-- Once the wait for an item ends without one, there is this error, and then the end. -/
lemma reads_broken (hopen : s.closed = false)
    (h : s.wait now cancelAt = (Clock.breach s.deadline cancelAt, t)) :
    Reads cancelAt s now [.error (breach s.limit s.deadline cancelAt)] := by
  obtain ⟨⟨items, ending⟩, deadline, limit, closed⟩ := s
  obtain rfl : closed = false := hopen
  have hnext : next ⟨⟨items, ending⟩, deadline, limit, false⟩ now cancelAt =
      (some (.error (breach limit deadline cancelAt)), t,
        ⟨⟨items, ending⟩, deadline, limit, true⟩) := by
    unfold Clock.breach at h
    unfold breach
    cases items <;> dsimp only [wait] at h <;> split_ifs at h ⊢ <;> simp [next, h]
  exact .item hnext (reads_closed rfl)

/-- Someone who is there for every item reads what is given, and no more. -/
theorem reads_given (hopen : s.closed = false) (hnow : now ≤ s.deadline)
    (hon : ∀ c ∈ cancelAt, now < c) (h : Apart s.deadline cancelAt (s.feed.instants now)) :
    Reads cancelAt s now (given s.feed s.limit now s.deadline cancelAt) := by
  obtain ⟨⟨items, ending⟩, deadline, limit, closed⟩ := s
  obtain rfl : closed = false := hopen
  induction items generalizing now with
  | nil =>
    obtain ⟨after, ⟨⟩, ahead⟩ := ending
    have hends : ∀ d, after = some d →
        now + d ∈ Feed.instants ⟨[], ⟨after, (), ahead⟩⟩ now := by
      rintro d rfl
      exact List.mem_singleton_self _
    have hclear : ¬Overtaken now after ahead deadline cancelAt := not_overtaken hon
    obtain ⟨d, rfl, hd, hawait⟩ | ⟨hlate, hbreach⟩ := await_apart hnow h hclear hends
    · have hnext : next ⟨⟨[], ⟨some d, (), ahead⟩⟩, deadline, limit, false⟩ now cancelAt =
          (none, now + d, ⟨⟨[], ⟨some d, (), ahead⟩⟩, deadline, limit, true⟩) := by
        simp [next, hawait]
      have hgiven : given ⟨[], ⟨some d, (), ahead⟩⟩ limit now deadline cancelAt = [] := by
        rw [given, if_pos (.inr ⟨now + d, rfl, hd⟩)]
        rfl
      exact hgiven ▸ .ended hnext
    · have hover : ¬Feed.IsOver ⟨[], ⟨after, (), ahead⟩⟩ now deadline cancelAt := by
        rintro (⟨item, hitem, -⟩ | ⟨t, ht, htime⟩)
        · cases hitem
        · obtain ⟨d, hd, rfl⟩ := Option.map_eq_some_iff.1 ht
          exact hlate d hd htime
      rw [given_late rfl hover]
      exact reads_broken rfl hbreach
  | cons item rest ih =>
    obtain ⟨after, value, ahead⟩ := item
    have hcomes : ∀ d, after = some d →
        now + d ∈ Feed.instants ⟨⟨after, value, ahead⟩ :: rest, ending⟩ now := by
      rintro d rfl
      exact List.mem_cons_self
    have hclear : ¬Overtaken now after ahead deadline cancelAt := not_overtaken hon
    obtain ⟨d, rfl, hd, hawait⟩ | ⟨hlate, hbreach⟩ := await_apart hnow h hclear hcomes
    · cases value with
      | ok text =>
        have hnext : next ⟨⟨⟨some d, .ok text, ahead⟩ :: rest, ending⟩, deadline, limit, false⟩ now
            cancelAt = (some (.ok text), now + d, ⟨⟨rest, ending⟩, deadline, limit, false⟩) := by
          simp [next, hawait]
        have hrest := ih hd.2 (Nat.le_of_lt hd.1) (h.of_subset (List.subset_cons_self _ _))
        exact given_ok hd ▸ .item hnext hrest
      | error e =>
        have hnext : next ⟨⟨⟨some d, .error e, ahead⟩ :: rest, ending⟩, deadline, limit, false⟩ now
            cancelAt = (some (.error e), now + d, ⟨⟨rest, ending⟩, deadline, limit, true⟩) := by
          simp [next, hawait]
        rw [given_fault hd]
        exact .item hnext (reads_closed rfl)
    · obtain ⟨hearly, hover⟩ := Feed.late_cons hlate
      rw [given_late hearly hover]
      exact reads_broken rfl hbreach

theorem reads_iff (hopen : s.closed = false) (hnow : now ≤ s.deadline)
    (hon : ∀ c ∈ cancelAt, now < c) (h : Apart s.deadline cancelAt (s.feed.instants now)) :
    Reads cancelAt s now items ↔ items = given s.feed s.limit now s.deadline cancelAt :=
  ⟨fun hreads => hreads.unique (reads_given hopen hnow hon h), fun hitems =>
    hitems ▸ reads_given hopen hnow hon h⟩

/-- When something happens to a stream that is asked for at `now`: it is opened, items come, and it
ends. -/
def instants (now : Nat) (start : Delayed (Except RunError Feed)) : List Nat :=
  match start.after with
  | none => []
  | some d => (now + d) :: match start.value with
    | .ok feed => feed.instants (now + d)
    | .error _ => []

/-- What comes of asking for a stream at `now`, and when: it is not opened in time, or the model
refuses it, or there is a stream from which its feed is read as long as there is time. -/
inductive Bounded (limit now : Nat) (cancelAt : Option Nat)
    (start : Delayed (Except RunError Feed)) : Except RunError Stream → Nat → Prop
  | late (hlate : ∀ d, start.after = some d → ¬InTime (now + limit) cancelAt (now + d)) :
    Bounded limit now cancelAt start (.error (breach (.ofMillis limit) (now + limit) cancelAt))
      (breachAt now (now + limit) cancelAt)
  | refused {d : Nat} {e : RunError} (hafter : start.after = some d)
    (htime : InTime (now + limit) cancelAt (now + d)) (hvalue : start.value = .error e) :
    Bounded limit now cancelAt start (.error e) (now + d)
  | opened {d : Nat} {f : Feed} {s : Stream} (hafter : start.after = some d)
    (htime : InTime (now + limit) cancelAt (now + d)) (hvalue : start.value = .ok f)
    (hreads : ∀ items, Reads cancelAt s (now + d) items ↔
      items = given f (.ofMillis limit) (now + d) (now + limit) cancelAt) :
    Bounded limit now cancelAt start (.ok s) (now + d)

end Stream

namespace World

variable {w w' w₁ : World} {r : Request} {start : Delayed (Except RunError Feed)}

lemma tidy_now (w : World) (c : Cleanup) : (w.tidy c).now = w.now := by
  unfold tidy
  split <;> rfl

@[simp] lemma advance_now (w : World) (t : Nat) : (w.advance t).now = max w.now t := by
  have htidy (cs : List Cleanup) (w : World) : (cs.foldl tidy w).now = w.now := by
    induction cs generalizing w with
    | nil => rfl
    | cons c cs ih => rw [List.foldl_cons, ih, tidy_now]
  rw [advance_eq, htidy]
  rfl

/-- Without a cutoff, waiting for the model goes on until the wait is over. -/
lemma attend_uncut {α : Type} {d : Delayed (Except RunError α)} {deadline limit t : Nat}
    {outcome : Wait} (hcutoff : w.cutoff = none)
    (h : Clock.await w.now d.after d.ahead deadline w.cancelAt = (outcome, t)) :
    ∃ w', w.attend d deadline limit = (some (outcome.reply d.value limit), w') ∧
      w'.now = max w.now t := by
  have hwait : w.wait t = (true, w.advance t) := by rw [wait, hcutoff]
  unfold attend
  rw [h]
  dsimp only
  rw [hwait]
  cases outcome <;> exact ⟨_, rfl, advance_now w t⟩

/-- A stream is opened, well or badly, when the wait for it is over. -/
lemma askStream_uncut {outcome : Wait} {t : Nat} (hcutoff : w.cutoff = none)
    (hclock : Clock.after? w.now w.limits.stream ≠ none)
    (hstart : w.model.start w.streamed.length r = start)
    (hawait : Clock.await w.now start.after start.ahead (w.now + w.limits.stream) w.cancelAt =
      (outcome, t)) (ht : w.now ≤ t) :
    ∃ w', w.askStream r = (some ((outcome.reply start.value w.limits.stream).map fun feed =>
      ⟨feed, w.now + w.limits.stream, .ofMillis w.limits.stream, false⟩), w') ∧ w'.now = t := by
  have hdeadline : Clock.after? w.now w.limits.stream = some (w.now + w.limits.stream) := by
    unfold Clock.after? at hclock ⊢
    split_ifs at hclock ⊢
    · rfl
    · exact absurd rfl hclock
  obtain ⟨w', hattend, hnow⟩ :=
    @attend_uncut (w.opening r start) _ _ _ w.limits.stream _ _ hcutoff hawait
  unfold askStream
  simp only [hdeadline, hstart, hattend]
  exact ⟨_, rfl, hnow.trans (Nat.max_eq_right ht)⟩

/-- A stream is asked for with a deadline that holds from now on. -/
theorem askStream_bounded (hcutoff : w.cutoff = none)
    (hclock : Clock.after? w.now w.limits.stream ≠ none)
    (hstart : w.model.start w.streamed.length r = start)
    (hapart : Apart (w.now + w.limits.stream) w.cancelAt (Stream.instants w.now start))
    (hclear : ¬Overtaken w.now start.after start.ahead (w.now + w.limits.stream) w.cancelAt) :
    ∃ reply w', w.askStream r = (some reply, w') ∧
      Stream.Bounded w.limits.stream w.now w.cancelAt start reply w'.now := by
  have hcomes : ∀ d, start.after = some d → w.now + d ∈ Stream.instants w.now start := by
    intro d hd
    rw [Stream.instants, hd]
    exact List.mem_cons_self
  obtain ⟨d, hafter, htime, hawait⟩ | ⟨hlate, hbreach⟩ :=
    await_apart (Nat.le_add_right _ _) hapart hclear hcomes
  · obtain ⟨w', hask, hnow⟩ :=
      askStream_uncut hcutoff hclock hstart hawait (Nat.le_add_right _ _)
    refine ⟨_, w', hask, ?_⟩
    rw [hnow]
    cases hvalue : start.value with
    | error e => exact .refused hafter htime hvalue
    | ok f =>
      have hread : Apart (w.now + w.limits.stream) w.cancelAt (f.instants (w.now + d)) := by
        rw [Stream.instants, hafter, hvalue] at hapart
        exact hapart.of_subset (List.subset_cons_self _ _)
      exact .opened hafter htime hvalue fun items =>
        Stream.reads_iff (s := ⟨f, _, _, false⟩) rfl (Nat.le_of_lt htime.1) htime.2 hread
  · obtain ⟨w', hask, hnow⟩ :=
      askStream_uncut hcutoff hclock hstart hbreach (Nat.le_max_left _ _)
    rw [Stream.breach_reply] at hask
    refine ⟨_, w', hask, ?_⟩
    rw [hnow]
    exact .late hlate

/-- What the model says at once is told even if the wait had been called off, where it is ahead of
that. -/
theorem askStream_overtaken (hcutoff : w.cutoff = none)
    (hclock : Clock.after? w.now w.limits.stream ≠ none)
    (hstart : w.model.start w.streamed.length r = start)
    (hover : Overtaken w.now start.after start.ahead (w.now + w.limits.stream) w.cancelAt) :
    ∃ reply w', w.askStream r = (some reply, w') ∧ w'.now = w.now ∧
      (start.after = some 0 → reply.map (·.feed) = start.value) ∧
      (start.after ≠ some 0 → reply = .error (.timeout (.ofMillis w.limits.stream))) := by
  obtain ⟨w', hask, hnow⟩ :=
    askStream_uncut hcutoff hclock hstart (await_overtaken hover) (Nat.le_refl _)
  refine ⟨_, w', hask, hnow, fun hready => ?_, fun hlate => ?_⟩
  · rw [if_pos hready]
    cases hvalue : start.value <;> rfl
  · rw [if_neg hlate]
    rfl

end World

/-- A run whose steps went well asks for the stream in the world after them. If the clock does not
get as far as its deadline, the run is broken off there. Otherwise the time that streams have bounds
the run from then on, and the reading of what it brings. The exception is what the model says at
once though it is called off already: it may be told first. Nothing is read after an error. -/
theorem Plan.run_bounded {p : Plan} {c c' : Context} {stages : List Plan.Stage} {w w₁ : World}
    (hstages : Plan.Prepares p.gated c stages c' none)
    (hreplied : Task.Replied World.answer w (stages.flatMap (·.calls)) w₁)
    (hcutoff : w.cutoff = none) :
    (Clock.after? w₁.now w.limits.stream = none → w.perform (p.run c) = (none, w₁)) ∧
    (Clock.after? w₁.now w.limits.stream ≠ none → ∀ start,
      w.model.start w₁.streamed.length (p.answer.request c') = start →
      ∃ out w', w.perform (p.run c) = (some (c', out), w') ∧
        w'.streamed = w₁.streamed ++ [p.answer.request c'] ∧
        (Overtaken w₁.now start.after start.ahead (w₁.now + w.limits.stream) w.cancelAt →
          w'.now = w₁.now ∧ (start.after = some 0 → out.map (·.feed) = start.value) ∧
          (start.after ≠ some 0 → out = .error (.timeout (.ofMillis w.limits.stream)))) ∧
        (¬Overtaken w₁.now start.after start.ahead (w₁.now + w.limits.stream) w.cancelAt →
          Clock.Apart (w₁.now + w.limits.stream) w.cancelAt (Stream.instants w₁.now start) →
          Stream.Bounded w.limits.stream w₁.now w.cancelAt start out w'.now) ∧
        ∀ s items front e rest, out = .ok s → s.Reads w.cancelAt w'.now items →
          items = front ++ .error e :: rest → rest = []) := by
  obtain ⟨hmodel, hlimits, hcut, hcancelAt, -⟩ := (World.replied_asks hreplied).alike
  have hran (reply : Except RunError Stream) : (p.run c).Ran (stages.flatMap (·.calls) ++
      [⟨.openStream (p.answer.request c'), reply⟩]) (c', reply) :=
    ran_iff_executes.2 ⟨stages, .opened hstages (Prompt.asks_iff.2 rfl) reply⟩
  refine ⟨fun hclock => ?_, fun hclock start hstart => ?_⟩
  · have hlost : w₁.askStream (p.answer.request c') = (none, w₁) :=
      World.askStream_of_none _ (hlimits.symm ▸ hclock)
    exact Task.run_of_lost (hran (.error .cancelled)) hreplied hlost
  · rw [← hlimits] at hclock ⊢
    rw [← hcancelAt]
    rcases hask : w₁.askStream (p.answer.request c') with ⟨_ | reply, w'⟩
    · exact absurd (hcut.trans hcutoff) ((World.askStream_of_ne_none hclock hask).2.2 rfl)
    have hrun := Task.run_of_ran (hran reply) (Task.replied_snoc_iff.2 ⟨w₁, hreplied, hask⟩)
    refine ⟨reply, w', hrun, (World.askStream_asks hask).streamed, fun hover => ?_,
      fun hclear hapart => ?_, fun s items front e rest _ hread => hread.error_last⟩
    · obtain ⟨reply', w'', hask', htold⟩ :=
        World.askStream_overtaken (hcut.trans hcutoff) hclock (hmodel ▸ hstart) hover
      cases hask.symm.trans hask'
      exact htold
    · obtain ⟨reply', w'', hask', hbounded⟩ :=
        World.askStream_bounded (hcut.trans hcutoff) hclock (hmodel ▸ hstart) hapart hclear
      cases hask.symm.trans hask'
      exact hbounded

/-- A world with a model that takes its time with the opening and with each of two texts. -/
def World.slow : World where
  cancelAt := some 300
  limits := { stream := 200 }
  model := Script.model
    { stream := some (["a", "b"], .complete), startDelay := 80, chunkDelay := 80 }
  stamps := ⟨fun _ => default, 0⟩

/-- The second text comes within the time for streams after the opening, but too late. -/
theorem Plan.run_bounded_slow : ∃ s w',
    World.slow.perform ((Plan.default "s").run (.ofHistory "hello" [])) =
      (some (.ofHistory "hello" [], .ok s), w') ∧ w'.now = 80 ∧
    s.Reads World.slow.cancelAt 80 [.ok "a", .error (.timeout (.ofMillis 200))] := by
  have hapart : Clock.Apart 200 World.slow.cancelAt [80, 160, 240, 240] :=
    ⟨by simp [World.slow], by simp [World.slow]⟩
  have hclear : ¬Overtaken 0 (some 80) false 200 World.slow.cancelAt :=
    fun h => Bool.false_ne_true h.ahead
  obtain ⟨-, hbounded⟩ := run_bounded (p := Plan.default "s") (c := .ofHistory "hello" [])
    (w := World.slow) (.done _) (.none _) rfl
  obtain ⟨out, w', hperform, -, -, hout, -⟩ := hbounded (by decide) _ rfl
  replace hout := hout hclear hapart
  generalize ht : w'.now = t at hout
  cases hout with
  | late hlate => exact absurd (by decide) (hlate 80 rfl)
  | refused _ _ hvalue => cases hvalue
  | opened hafter _ hvalue hreads =>
    cases hafter
    cases hvalue
    exact ⟨_, w', hperform, ht, (hreads _).2 (by decide +kernel)⟩

/-- A run without steps that asks for its stream in this world comes to an end that is bounded by
the time for streams, where no two things happen at once. -/
def World.Bounds (w : World) (c : Context) : Prop :=
  let start := w.model.start w.streamed.length ((Plan.default "s").answer.request c)
  Clock.Apart (w.now + w.limits.stream) w.cancelAt (Stream.instants w.now start) →
    ∃ out w', w.perform ((Plan.default "s").run c) = (some (c, out), w') ∧
      Stream.Bounded w.limits.stream w.now w.cancelAt start out w'.now

/-- A world in which a stream is opened at once, ahead of what called it off before. -/
def World.hasty : World where
  now := 1
  cancelAt := some 0
  limits := { stream := 200 }
  model :=
    { answer _ _ := .atOnce (.ok "")
      start _ _ := { Delayed.atOnce (.ok { items := [] }) with ahead := true } }
  stamps := ⟨fun _ => default, 0⟩

/-- Not every run is bounded: one whose stream is never called off may break off instead, and one
whose stream is called off before may go on where the clock gets as far as it has to. -/
theorem Plan.run_unbounded :
    (¬∀ (w : World) (c : Context), w.cutoff = none → w.cancelAt = none → w.Bounds c) ∧
    ¬∀ (w : World) (c : Context), w.cutoff = none → Clock.after? w.now w.limits.stream ≠ none →
      w.Bounds c := by
  constructor
  · intro h
    have hapart : Clock.Apart (World.boundless.now + World.boundless.limits.stream) none [0] :=
      ⟨nofun, by decide +kernel⟩
    obtain ⟨out, w', hrun, -⟩ := h .boundless (.ofHistory "hello" []) rfl rfl hapart
    rw [default_run, World.perform_openStream,
      World.askStream_of_none _ World.boundless_clock] at hrun
    cases hrun
  · intro h
    have hapart : Clock.Apart 201 (some 0) [1, 1] := ⟨by simp, by simp⟩
    have hclock : Clock.after? World.hasty.now World.hasty.limits.stream ≠ none := by decide
    obtain ⟨out, w', hrun, hbounded⟩ := h .hasty (.ofHistory "hello" []) rfl hclock hapart
    have hover : Clock.Overtaken 1 (some 0) true 201 (some 0) :=
      ⟨rfl, ⟨0, rfl, by decide⟩, .inl rfl⟩
    obtain ⟨reply, w₁, hask, -, hready, -⟩ :=
      @World.askStream_overtaken .hasty ⟨"s", [], "hello"⟩ _ rfl hclock rfl hover
    have hperform : World.hasty.perform ((Plan.default "s").run (.ofHistory "hello" [])) =
        (some (.ofHistory "hello" [], reply), w₁) := by
      rw [default_run, World.perform_openStream]
      exact hask ▸ rfl
    cases hrun.symm.trans hperform
    generalize w'.now = t at hbounded
    cases hbounded with
    | late => cases hready rfl
    | refused _ _ hvalue => cases hvalue
    | opened _ htime _ _ => exact absurd (htime.2 0 rfl) (Nat.not_lt_zero _)

end Parley
