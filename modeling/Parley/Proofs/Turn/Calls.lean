import Mathlib.Data.List.Induction
import Parley.Proofs.Reply.Relay

/-!
# Calls on a turn

A turn is asked to hold a place for its reply, to take a delta, and to be finalized or deleted, in
any order and as often as anyone likes. `Course` lists the moves that can be granted, with the state
and the message they lead to, and every run of calls keeps to it (`course_after`). A relay asks its
turn for the deltas and then for one last move, which is granted (`calls_orderly`).
-/

namespace Parley

namespace Turn

/-- What is asked of a turn. -/
inductive Call
  | place (id : Id)
  | push (delta : String)
  | finalize
  | delete

namespace Call

/-- The state that is asked for. -/
def target? : Call → Option State
  | place _ => some .aiPlaceholderCreated
  | push _ => none
  | finalize => some .aiMessageFinalized
  | delete => some .aiMessageDeleted

def delta? : Call → Option String
  | push delta => some delta
  | _ => none

def isPlacing : Call → Bool
  | place _ => true
  | _ => false

def isClosing : Call → Bool
  | finalize => true
  | delete => true
  | _ => false

end Call

/-- What a caller is told. -/
inductive Told
  | granted
  | appended (text : String)
  | refused (e : RunError)

def Told.isGranted : Told → Bool
  | granted => true
  | _ => false

/-- A move that is refused leaves the turn as it is. -/
def attempt (t : Turn) : Except RunError Turn → Turn × Told
  | .ok t' => (t', .granted)
  | .error e => (t, .refused e)

/-- The turn after a call, and what the caller is told. -/
def call (t : Turn) : Call → Turn × Told
  | .place id => t.attempt (t.placeholderCreated id)
  | .push delta => (t.push delta, .appended (t.appended delta))
  | .finalize => t.attempt t.finalized
  | .delete => t.attempt t.deleted

def after (t : Turn) (calls : List Call) : Turn := calls.foldl (fun t c => (t.call c).1) t

/-- The moves among some calls that are granted. -/
def granted (t : Turn) : List Call → List Call
  | [] => []
  | c :: rest => (if (t.call c).2.isGranted then [c] else []) ++ (t.call c).1.granted rest

variable {t : Turn} {c : Call} {calls moves : List Call} {s target : State} {m : Option Id}

lemma after_append (t : Turn) (front rest : List Call) :
    t.after (front ++ rest) = (t.after front).after rest := List.foldl_append

lemma after_snoc (t : Turn) (calls : List Call) (c : Call) :
    t.after (calls ++ [c]) = ((t.after calls).call c).1 := after_append t calls [c]

lemma granted_snoc (t : Turn) (calls : List Call) (c : Call) :
    t.granted (calls ++ [c]) =
      t.granted calls ++ if ((t.after calls).call c).2.isGranted then [c] else [] := by
  induction calls generalizing t with
  | nil => exact List.append_nil _
  | cons first calls ih =>
    rw [List.cons_append, granted, granted, ih, List.append_assoc]
    rfl

/-- What every call keeps is kept. -/
lemma after_of_call {P : Turn → Prop} (hcall : ∀ t c, P t → P (t.call c).1) (h : P t)
    (calls : List Call) : P (t.after calls) := by
  induction calls generalizing t with
  | nil => exact h
  | cons c calls ih => exact ih (hcall t c h)

/-- The message of a turn once a call was granted. -/
def Call.message? (m : Option Id) : Call → Option Id
  | place id => some id
  | _ => m

/-- A move is granted if the state admits it, and otherwise changes nothing. -/
lemma call_move (t : Turn) (h : c.target? = some target) :
    t.call c = if t.state.canBecome target then
        ({ t with state := target, aiMessageId := c.message? t.aiMessageId }, .granted)
      else (t, .refused (.transition t.state target)) := by
  cases c with
  | push => cases h
  | place id =>
    obtain rfl := Option.some.inj h
    simp only [call, placeholderCreated, advance]
    split_ifs <;> rfl
  | finalize =>
    obtain rfl := Option.some.inj h
    simp only [call, finalized, advance]
    split_ifs <;> rfl
  | delete =>
    obtain rfl := Option.some.inj h
    simp only [call, deleted, advance]
    split_ifs <;> rfl

lemma target_or_delta (c : Call) :
    (∃ target, c.target? = some target ∧ c.delta? = none) ∨ ∃ delta, c = .push delta := by
  cases c with
  | push delta => exact .inr ⟨delta, rfl⟩
  | _ => exact .inl ⟨_, rfl, rfl⟩

/-- A call is a delta, or a move that is granted, or one that is refused. -/
lemma call_cases (t : Turn) (c : Call) :
    (∃ delta, c = .push delta ∧ t.call c = (t.push delta, .appended (t.appended delta))) ∨
    (∃ target, c.target? = some target ∧ c.delta? = none ∧ t.state.canBecome target = true ∧
      t.call c =
        ({ t with state := target, aiMessageId := c.message? t.aiMessageId }, .granted)) ∨
    ∃ e, c.delta? = none ∧ t.call c = (t, .refused e) := by
  obtain ⟨target, htarget, hdelta⟩ | ⟨delta, rfl⟩ := target_or_delta c
  · have hmove := call_move t htarget
    split_ifs at hmove with hcan
    · exact .inr (.inl ⟨target, htarget, hdelta, hcan, hmove⟩)
    · exact .inr (.inr ⟨_, hdelta, hmove⟩)
  · exact .inl ⟨delta, rfl, rfl⟩

lemma call_of_terminal (c : Call) (h : t.state.isTerminal = true) :
    (t.call c).1.state = t.state := by
  obtain ⟨delta, -, hcall⟩ | ⟨target, -, -, hcan, -⟩ | ⟨e, -, hcall⟩ := call_cases t c
  · rw [hcall]
    rfl
  · cases hs : t.state <;> simp [hs, State.isTerminal, State.canBecome] at h hcan
  · rw [hcall]

/-- There is no way back to the state without a message, and none to another message. -/
lemma call_of_placed (c : Call) (h : t.state ≠ .userMessageSaved) :
    (t.call c).1.state ≠ .userMessageSaved ∧ (t.call c).1.aiMessageId = t.aiMessageId := by
  obtain ⟨delta, -, hcall⟩ | ⟨target, htarget, -, hcan, hcall⟩ | ⟨e, -, hcall⟩ := call_cases t c
  · rw [hcall]
    exact ⟨h, rfl⟩
  · rw [hcall]
    cases c <;> cases htarget <;> cases hs : t.state <;>
      simp_all [State.canBecome, Call.message?]
  · rw [hcall]
    exact ⟨h, rfl⟩

/-- The moves that can be granted to a new turn, with the state and the message after them. -/
inductive Course : List Call → State → Option Id → Prop
  | saved : Course [] .userMessageSaved none
  | placed (id : Id) : Course [.place id] .aiPlaceholderCreated (some id)
  | finalized (id : Id) : Course [.place id, .finalize] .aiMessageFinalized (some id)
  | deleted (id : Id) : Course [.place id, .delete] .aiMessageDeleted (some id)

lemma Course.move (h : Course moves s m) (htarget : c.target? = some target)
    (hcan : s.canBecome target = true) : Course (moves ++ [c]) target (c.message? m) := by
  cases h with
  | saved => cases c <;> cases htarget <;> cases hcan; exact .placed _
  | placed id =>
    cases c <;> cases htarget <;> cases hcan
    · exact .finalized id
    · exact .deleted id
  | finalized id => cases c <;> cases htarget <;> cases hcan
  | deleted id => cases c <;> cases htarget <;> cases hcan

lemma Course.placed_once (h : Course moves s m) : moves.countP Call.isPlacing ≤ 1 := by
  cases h <;> simp [List.countP_cons, Call.isPlacing]

lemma Course.closed_once (h : Course moves s m) : moves.countP Call.isClosing ≤ 1 := by
  cases h <;> simp [List.countP_cons, Call.isClosing]

lemma Course.placed_first (h : Course moves s m) :
    moves = [] ∨ ∃ id rest, moves = .place id :: rest := by
  cases h with
  | saved => exact .inl rfl
  | _ => exact .inr ⟨_, _, rfl⟩

lemma Course.closed_after {front rest : List Call} (h : Course (front ++ c :: rest) s m)
    (hc : c.isClosing = true) : ∃ id, .place id ∈ front := by
  obtain hnil | ⟨id, more, hmore⟩ := h.placed_first
  · simp at hnil
  · obtain _ | ⟨first, front⟩ := front
    · obtain ⟨rfl, -⟩ := List.cons.inj hmore
      cases hc
    · obtain ⟨rfl, -⟩ := List.cons.inj hmore
      exact ⟨id, List.mem_cons_self⟩

lemma Course.place_iff (h : Course moves s m) :
    s.canBecome .aiPlaceholderCreated = true ↔ ∀ id, .place id ∉ moves := by
  cases h <;> simp [State.canBecome]

lemma Course.message_iff (h : Course moves s m) : m.isSome = true ↔ s ≠ .userMessageSaved := by
  cases h <;> simp

lemma Course.message_placed {id : Id} (h : Course moves s m) (hid : .place id ∈ moves) :
    m = some id := by
  cases h <;> simp_all

/-- Whatever is asked of a turn, the moves that are granted are those of a course. -/
theorem course_after (h : Course [] t.state t.aiMessageId) (calls : List Call) :
    Course (t.granted calls) (t.after calls).state (t.after calls).aiMessageId := by
  induction calls using List.reverseRecOn with
  | nil => exact h
  | append_singleton calls c ih =>
    rw [granted_snoc, after_snoc]
    obtain ⟨delta, -, hcall⟩ | ⟨target, htarget, -, hcan, hcall⟩ | ⟨e, -, hcall⟩ :=
      call_cases (t.after calls) c
    · rw [hcall]
      exact (List.append_nil _).symm ▸ ih
    · rw [hcall]
      exact ih.move htarget hcan
    · rw [hcall]
      exact (List.append_nil _).symm ▸ ih

/-- The text of a turn is that of all deltas, wherever they come among the moves. -/
theorem aiText_after (t : Turn) (calls : List Call) :
    (t.after calls).aiText = t.textWith (calls.filterMap Call.delta?) := by
  induction calls using List.reverseRecOn with
  | nil => exact (textWith_nil t).symm
  | append_singleton calls c ih =>
    rw [after_snoc, List.filterMap_append]
    obtain ⟨delta, rfl, hcall⟩ | ⟨target, -, hdelta, -, hcall⟩ | ⟨e, hdelta, hcall⟩ :=
      call_cases (t.after calls) c
    · rw [hcall]
      exact aiText_push ih delta
    · simpa [hcall, hdelta] using ih
    · simpa [hcall, hdelta] using ih

lemma message_kept (h : t.state ≠ .userMessageSaved) (later : List Call) :
    (t.after later).aiMessageId = t.aiMessageId := by
  have hkept (u : Turn) (c : Call)
      (hu : u.state ≠ .userMessageSaved ∧ u.aiMessageId = t.aiMessageId) :
      (u.call c).1.state ≠ .userMessageSaved ∧ (u.call c).1.aiMessageId = t.aiMessageId := by
    obtain ⟨hstate, hmessage⟩ := call_of_placed c hu.1
    exact ⟨hstate, hmessage.trans hu.2⟩
  exact (after_of_call hkept ⟨h, rfl⟩ later).2

lemma terminal_kept (h : t.state.isTerminal = true) (later : List Call) :
    (t.after later).state = t.state := by
  have hkept (u : Turn) (c : Call) (hu : u.state = t.state) : (u.call c).1.state = t.state :=
    (call_of_terminal c (hu.symm ▸ h)).trans hu
  exact after_of_call hkept rfl later

lemma origin_kept (t : Turn) (calls : List Call) : (t.after calls).chatId = t.chatId ∧
    (t.after calls).userMessageId = t.userMessageId ∧
    (t.after calls).createdChat = t.createdChat := by
  let Kept (u : Turn) : Prop :=
    u.chatId = t.chatId ∧ u.userMessageId = t.userMessageId ∧ u.createdChat = t.createdChat
  have hkept (u : Turn) (c : Call) (hu : Kept u) : Kept (u.call c).1 := by
    obtain ⟨delta, -, hcall⟩ | ⟨target, -, -, -, hcall⟩ | ⟨e, -, hcall⟩ := call_cases u c <;>
      rw [hcall] <;> exact hu
  exact after_of_call hkept ⟨rfl, rfl, rfl⟩ calls

lemma state_after_push (t : Turn) (deltas : List String) :
    (t.after (deltas.map .push)).state = t.state := by
  induction deltas generalizing t with
  | nil => rfl
  | cons d deltas ih => exact ih (t.push d)

lemma granted_iff (h : c.target? = some target) :
    (t.call c).2 = .granted ↔ t.state.canBecome target = true := by
  rw [call_move t h]
  split_ifs with hcan <;> simp [hcan]

lemma refused_call {e : RunError} (h : (t.call c).2 = .refused e) : ∃ target,
    c.target? = some target ∧ e = .transition t.state target ∧ (t.call c).1 = t := by
  obtain ⟨target, htarget, -⟩ | ⟨delta, rfl⟩ := target_or_delta c
  · rw [call_move t htarget] at h ⊢
    split_ifs at h ⊢
    obtain rfl := Told.refused.inj h
    exact ⟨target, htarget, rfl, rfl⟩
  · cases h

/-- What is true of a turn after some calls, and of every call that may come next. -/
structure Orderly (start : Turn) (calls : List Call) : Prop where
  placed_once : (start.granted calls).countP Call.isPlacing ≤ 1
  closed_once : (start.granted calls).countP Call.isClosing ≤ 1
  closed_after : ∀ front c rest, start.granted calls = front ++ c :: rest → c.isClosing = true →
    ∃ id, .place id ∈ front
  message_iff : (start.after calls).aiMessageId.isSome = true ↔
    (start.after calls).state ≠ .userMessageSaved
  message_placed : ∀ id, .place id ∈ start.granted calls →
    (start.after calls).aiMessageId = some id
  message_kept : ∀ id later, (start.after calls).aiMessageId = some id →
    (start.after (calls ++ later)).aiMessageId = some id
  terminal_kept : ∀ later, (start.after calls).state.isTerminal = true →
    (start.after (calls ++ later)).state = (start.after calls).state
  granted_iff : ∀ c target, c.target? = some target →
    (((start.after calls).call c).2 = .granted ↔
      (start.after calls).state.canBecome target = true)
  refused : ∀ c e, ((start.after calls).call c).2 = .refused e → ∃ target,
    c.target? = some target ∧ e = .transition (start.after calls).state target ∧
      start.after (calls ++ [c]) = start.after calls
  origin : (start.after calls).chatId = start.chatId ∧
    (start.after calls).userMessageId = start.userMessageId ∧
    (start.after calls).createdChat = start.createdChat
  aiText : (start.after calls).aiText =
    Text.trimStart (String.join (calls.filterMap Call.delta?))
  appended : ∀ delta, ∃ text, ((start.after calls).call (.push delta)).2 = .appended text ∧
    (start.after (calls ++ [.push delta])).aiText = (start.after calls).aiText ++ text

theorem orderly_of_course (hcourse : Course [] t.state t.aiMessageId) (htext : t.aiText = "")
    (calls : List Call) : Orderly t calls := by
  have hnow := course_after hcourse calls
  constructor
  case placed_once => exact hnow.placed_once
  case closed_once => exact hnow.closed_once
  case closed_after =>
    intro front c rest hgranted hc
    exact (hgranted ▸ hnow).closed_after hc
  case message_iff => exact hnow.message_iff
  case message_placed => exact fun id => hnow.message_placed
  case message_kept =>
    intro id later hid
    rw [after_append, message_kept (hnow.message_iff.1 (hid ▸ rfl)), hid]
  case terminal_kept =>
    intro later hterminal
    rw [after_append, terminal_kept hterminal]
  case granted_iff => exact fun c target => granted_iff
  case refused =>
    intro c e hrefused
    rw [after_snoc]
    exact refused_call hrefused
  case origin => exact origin_kept t calls
  case aiText => rw [aiText_after, textWith, if_pos htext]
  case appended =>
    intro delta
    rw [after_snoc]
    exact ⟨_, rfl, rfl⟩

end Turn

namespace Relay

/-- The last move that a relay asks its turn for. -/
def closing : Reply.Status → Turn.Call
  | .success => .finalize
  | .failure => .delete

lemma close_eq_call (t : Turn) (s : Reply.Status) : close t s = (t.call (closing s)).1 := by
  cases s with
  | success =>
    simp only [close, Reply.Status.isSuccess, if_true, closing, Turn.call]
    cases t.finalized <;> rfl
  | failure =>
    simp only [close, Reply.Status.isSuccess, closing, Turn.call]
    cases t.deleted <;> rfl

variable {m : Id} {t : Turn} {log : List Exchange} {r : Relay}

/-- The deltas that were heard, as calls on the turn. -/
def pushes (log : List Exchange) : List Turn.Call := (deltas log).map .push

lemma pushes_snoc (log : List Exchange) (x : Exchange) :
    pushes (log ++ [x]) = pushes log ++ (x.event.delta?.map Turn.Call.push).toList := by
  rw [pushes, deltas_snoc, List.map_append, pushes]
  cases x.event.delta? <;> rfl

/-- A relay has asked its turn to take deltas, and to close when it settled. -/
inductive Asked (t : Turn) (log : List Exchange) (r : Relay) : Prop
  | unsettled (hphase : r.phase ≠ .settled) (hturn : r.turn = t.after (pushes log))
  | settled {s : Reply.Status} {front : List Exchange} {last : Exchange}
    (hphase : r.phase = .settled) (hlog : log = front ++ [last])
    (hsent : last.sent = Reply.encodeStatus s)
    (hturn : r.turn = t.after (pushes log ++ [closing s]))

lemma pushes_same {e : Event} (he : e.delta? = none) :
    pushes (log ++ [r.exchange e]) = pushes log := by
  rw [pushes_snoc]
  simp [exchange, he]

lemma asked_settle {e : Event} {s : Reply.Status} (hturn : r.turn = t.after (pushes log))
    (he : e.delta? = none) (hstep : r.step e = r.settle s) :
    Asked t (log ++ [r.exchange e]) (r.step e).1 := by
  refine .settled (by rw [hstep]; rfl) rfl (congrArg Prod.snd hstep) ?_
  rw [hstep, pushes_same he, Turn.after_snoc, ← hturn]
  exact close_eq_call r.turn s

lemma asked_wait {e : Event} {r' : Relay} (hturn : r.turn = t.after (pushes log))
    (he : e.delta? = none) (hsame : r'.turn = r.turn) (hphase : r'.phase ≠ .settled) :
    Asked t (log ++ [r.exchange e]) r' :=
  .unsettled hphase (by rw [pushes_same he, hsame, hturn])

/-- What a relay asks of its turn are the deltas that it hears, and a last move when it settles. -/
theorem run_asked (h : Run { messageId := m, turn := t } log r) : Asked t log r := by
  induction h with
  | start => exact .unsettled Phase.noConfusion rfl
  | @step log r e h he ih =>
    cases ih with
    | settled hphase =>
      rw [demand_eq_nothing_iff.2 hphase] at he
      cases he
    | unsettled hphase hturn =>
      obtain ⟨id, turn, phase⟩ := r
      cases phase with
      | listening =>
        cases he with
        | delta text =>
          refine .unsettled Phase.noConfusion ?_
          have hsnoc := Turn.after_snoc t (pushes log) (.push text)
          rw [pushes_snoc]
          exact (congrArg (Turn.push · text) hturn).trans hsnoc.symm
        | ended => exact asked_wait hturn rfl rfl Phase.noConfusion
        | failed => exact asked_wait hturn rfl rfl Phase.noConfusion
      | saving =>
        cases he with
        | saved _ _ outcome =>
          rcases outcome with e | found | found
          · exact asked_wait hturn rfl rfl Phase.noConfusion
          · exact asked_settle hturn rfl (s := .failure) rfl
          · exact asked_settle hturn rfl (s := .success) rfl
      | discarding =>
        cases he with
        | discarded _ outcome => exact asked_settle hturn rfl (s := .failure) rfl
      | settled => cases he

/-- A relay that settles has its last move granted, if its turn had a place for the reply. -/
theorem run_closes (h : Run { messageId := m, turn := t } log r) (hr : r.demand = .nothing)
    (ht : t.state = .aiPlaceholderCreated) :
    ∃ s front last, log = front ++ [last] ∧ last.sent = Reply.encodeStatus s ∧
      (t.after (pushes log)).call (closing s) = (r.turn, .granted) := by
  have hphase := demand_eq_nothing_iff.1 hr
  cases run_asked h with
  | unsettled hopen => exact absurd hphase hopen
  | @settled s front last _ hlog hsent hturn =>
    refine ⟨s, front, last, hlog, hsent, Prod.ext ?_ ?_⟩
    · rw [hturn, Turn.after_snoc]
    · have hstate := (Turn.state_after_push t (deltas log)).trans ht
      cases s with
      | success => exact (Turn.granted_iff rfl).2 (by rw [pushes, hstate]; rfl)
      | failure => exact (Turn.granted_iff rfl).2 (by rw [pushes, hstate]; rfl)

end Relay

/-- Whatever is asked of a new turn, its place is made once and its reply is closed once, it keeps
its message, its end and where it came from, a move that its state does not admit changes nothing,
and its text is that of all deltas without the blanks at the start. Its place is made when that is
first asked for, and from then on a relay that runs to its end asks for a last move that is
granted. -/
theorem Turn.calls_orderly (chatId userMessageId : Id) (createdChat : Bool)
    (calls : List Turn.Call) :
    (Turn.new chatId userMessageId createdChat).Orderly calls ∧
    (∀ id, (((Turn.new chatId userMessageId createdChat).after calls).call (.place id)).2 =
        .granted ↔
      ∀ id', .place id' ∉ (Turn.new chatId userMessageId createdChat).granted calls) ∧
    ∀ id t, ((Turn.new chatId userMessageId createdChat).after calls).call (.place id) =
        (t, .granted) →
      ∃ r, Relay.ofTurn? t = some r ∧ r.messageId = id ∧
        ∀ log r', Relay.Run r log r' → r'.demand = .nothing →
          ∃ s front last, log = front ++ [last] ∧ last.sent = Reply.encodeStatus s ∧
            (t.after (Relay.pushes log)).call (Relay.closing s) = (r'.turn, .granted) := by
  have hcourse := Turn.course_after (t := .new chatId userMessageId createdChat) .saved calls
  refine ⟨Turn.orderly_of_course .saved rfl calls, fun id => ?_, fun id t hplace => ?_⟩
  · exact (Turn.granted_iff rfl).trans hcourse.place_iff
  have hgranted := congrArg Prod.snd hplace
  rw [Turn.call_move _ rfl, if_pos ((Turn.granted_iff rfl).1 hgranted)] at hplace
  obtain rfl := congrArg Prod.fst hplace
  exact ⟨_, rfl, rfl, fun log r' hrun hr => Relay.run_closes hrun hr rfl⟩

end Parley
