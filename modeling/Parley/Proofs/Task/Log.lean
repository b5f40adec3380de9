import Mathlib.Tactic.Lemma
import Parley.Task

/-!
# What passes while a task runs

`Task.Ran` says that a task was done after some calls and replies, whoever gave them, and
`Task.Waits` that it came to a call that is not replied to yet. A run in a state is one of these,
with the replies of that state (`run_some`, `run_none`).
-/

namespace Parley

/-- A call and the reply to it. -/
structure Asked where
  call : Call
  reply : call.Reply

namespace Task

variable {α β σ : Type}

inductive Ran : Task α → List Asked → α → Prop
  | done (a : α) : Ran (done a) [] a
  | ask {c : Call} {k : c.Reply → Task α} (r : c.Reply) {log : List Asked} {a : α}
    (h : Ran (k r) log a) : Ran (ask c k) (⟨c, r⟩ :: log) a

inductive Waits : Task α → List Asked → Call → Prop
  | here {c : Call} {k : c.Reply → Task α} : Waits (ask c k) [] c
  | ask {c : Call} {k : c.Reply → Task α} (r : c.Reply) {log : List Asked} {d : Call}
    (h : Waits (k r) log d) : Waits (ask c k) (⟨c, r⟩ :: log) d

/-- The replies were given by a state that answers calls, from one state to another. -/
inductive Replied (answer : (c : Call) → σ → Option c.Reply × σ) : σ → List Asked → σ → Prop
  | none (s : σ) : Replied answer s [] s
  | next {s s₁ s₂ : σ} {x : Asked} {log : List Asked}
    (hx : answer x.call s = (some x.reply, s₁)) (h : Replied answer s₁ log s₂) :
    Replied answer s (x :: log) s₂

/-- The calls of a run that were replied to. -/
def log (answer : (c : Call) → σ → Option c.Reply × σ) : Task α → σ → List Asked
  | done _, _ => []
  | ask c k, s =>
    match answer c s with
    | (none, _) => []
    | (some r, s) => ⟨c, r⟩ :: (k r).log answer s

variable {answer : (c : Call) → σ → Option c.Reply × σ} {s s₁ s₂ : σ} {t : Task α} {a : α}
  {log log' : List Asked}

theorem run_some (h : t.run answer s = (some a, s₁)) :
    t.Ran (t.log answer s) a ∧ Replied answer s (t.log answer s) s₁ := by
  induction t generalizing s with
  | done b =>
    cases h
    exact ⟨.done _, .none _⟩
  | ask c k ih =>
    rcases hc : answer c s with ⟨_ | r, s'⟩ <;> rw [run, hc] at h
    · cases h
    · obtain ⟨hran, hreplied⟩ := ih r h
      rw [Task.log, hc]
      exact ⟨.ask r hran, .next hc hreplied⟩

/-- A run that is not done has come to a call without an answer. -/
theorem run_none (h : t.run answer s = (none, s₁)) :
    ∃ c s', t.Waits (t.log answer s) c ∧ Replied answer s (t.log answer s) s' ∧
      answer c s' = (none, s₁) := by
  induction t generalizing s with
  | done b => cases h
  | ask c k ih =>
    rcases hc : answer c s with ⟨_ | r, s'⟩ <;> rw [run, hc] at h
    · cases h
      rw [Task.log, hc]
      exact ⟨c, s, .here, .none s, hc⟩
    · obtain ⟨d, s'', hwaits, hreplied, hlost⟩ := ih r h
      rw [Task.log, hc]
      exact ⟨d, s'', .ask r hwaits, .next hc hreplied, hlost⟩

/-- A run whose replies a state gives is the run in that state. -/
theorem run_of_ran (h : t.Ran log a) (hreplied : Replied answer s log s₁) :
    t.run answer s = (some a, s₁) := by
  induction h generalizing s with
  | done b =>
    cases hreplied
    rfl
  | ask r _ ih =>
    cases hreplied with
    | next hx hreplied =>
      rw [run, hx]
      exact ih hreplied

/-- A run comes to nothing at the first call that the state has no answer to. -/
lemma run_of_lost {c : Call} {r : c.Reply} (h : t.Ran (log ++ ⟨c, r⟩ :: log') a)
    (hreplied : Replied answer s log s₁) (hc : answer c s₁ = (none, s₂)) :
    t.run answer s = (none, s₂) := by
  induction log generalizing t s with
  | nil =>
    cases hreplied
    cases h with
    | ask => rw [run, hc]
  | cons x log ih =>
    cases h with
    | ask _ h =>
      cases hreplied with
      | next hx hreplied =>
        rw [run, hx]
        exact ih h hreplied

lemma Replied.append (h : Replied answer s log s₁) (h' : Replied answer s₁ log' s₂) :
    Replied answer s (log ++ log') s₂ := by
  induction h with
  | none => exact h'
  | next hx _ ih => exact .next hx (ih h')

lemma replied_append_iff : Replied answer s (log ++ log') s₂ ↔
    ∃ s₁, Replied answer s log s₁ ∧ Replied answer s₁ log' s₂ := by
  refine ⟨fun h => ?_, fun ⟨_, h, h'⟩ => h.append h'⟩
  induction log generalizing s with
  | nil => exact ⟨s, .none s, h⟩
  | cons x log ih =>
    cases h with
    | next hx h =>
      obtain ⟨s₁, h, h'⟩ := ih h
      exact ⟨s₁, .next hx h, h'⟩

lemma replied_cons_iff {x : Asked} : Replied answer s (x :: log) s₂ ↔
    ∃ s₁, answer x.call s = (some x.reply, s₁) ∧ Replied answer s₁ log s₂ :=
  ⟨fun | .next hx h => ⟨_, hx, h⟩, fun ⟨_, hx, h⟩ => .next hx h⟩

lemma replied_nil_iff : Replied answer s [] s₁ ↔ s₁ = s :=
  ⟨fun | .none _ => rfl, by rintro rfl; exact .none _⟩

lemma replied_singleton_iff {x : Asked} :
    Replied answer s [x] s₁ ↔ answer x.call s = (some x.reply, s₁) := by
  rw [replied_cons_iff]
  constructor
  · rintro ⟨s₂, hx, hdone⟩
    rwa [replied_nil_iff.1 hdone]
  · exact fun hx => ⟨s₁, hx, .none s₁⟩

lemma replied_snoc_iff {x : Asked} : Replied answer s (log ++ [x]) s₂ ↔
    ∃ s₁, Replied answer s log s₁ ∧ answer x.call s₁ = (some x.reply, s₂) := by
  rw [replied_append_iff]
  exact exists_congr fun s₁ => and_congr_right fun _ => replied_singleton_iff

@[simp] lemma ran_pure_iff {b : α} : Ran (pure b) log a ↔ log = [] ∧ a = b :=
  ⟨fun | .done _ => ⟨rfl, rfl⟩, fun ⟨hlog, ha⟩ => hlog ▸ ha ▸ .done a⟩

lemma ran_ask_iff {c : Call} {k : c.Reply → Task α} :
    (ask c k).Ran log a ↔ ∃ r rest, log = ⟨c, r⟩ :: rest ∧ (k r).Ran rest a :=
  ⟨fun | .ask r h => ⟨r, _, rfl, h⟩, fun ⟨r, _, hlog, h⟩ => hlog ▸ .ask r h⟩

lemma ran_call_iff {c : Call} {r : c.Reply} : (call c).Ran log r ↔ log = [⟨c, r⟩] := by
  rw [call, ran_ask_iff]
  refine ⟨?_, fun h => ⟨r, [], h, .done r⟩⟩
  rintro ⟨r', rest, rfl, h⟩
  cases h
  rfl

theorem ran_bind_iff {f : α → Task β} {b : β} : (t >>= f).Ran log b ↔
    ∃ front rest a, log = front ++ rest ∧ t.Ran front a ∧ (f a).Ran rest b := by
  refine ⟨fun h => ?_, ?_⟩
  · induction t generalizing log with
    | done a => exact ⟨[], log, a, rfl, .done a, h⟩
    | ask c k ih =>
      obtain ⟨r, tail, rfl, htail⟩ := ran_ask_iff.1 h
      obtain ⟨front, rest, a, rfl, ht, hf⟩ := ih r htail
      exact ⟨⟨c, r⟩ :: front, rest, a, rfl, .ask r ht, hf⟩
  · rintro ⟨front, rest, a, rfl, ht, hf⟩
    induction ht with
    | done a => exact hf
    | ask r _ ih => exact .ask r (ih hf)

/-- A task that calls first and goes on with the reply. -/
lemma ran_call_bind_iff {c : Call} {f : c.Reply → Task β} {b : β} : (call c >>= f).Ran log b ↔
    ∃ r rest, log = ⟨c, r⟩ :: rest ∧ (f r).Ran rest b := ran_ask_iff

/-- What a task comes to depends on the replies alone. -/
lemma Ran.unique {b : α} (h : t.Ran log a) (h' : t.Ran log b) : a = b := by
  induction h with
  | done a =>
    cases h'
    rfl
  | ask r _ ih =>
    cases h' with
    | ask _ h' => exact ih h'

/-- Every call can be replied to. -/
lemma reply_nonempty (c : Call) : Nonempty c.Reply := by
  cases c with
  | stamp => exact ⟨default⟩
  | chats => exact ⟨.error (.storage "")⟩
  | agents => exact ⟨.error (.storage "")⟩
  | invoke => exact ⟨.error .cancelled⟩
  | openStream => exact ⟨.error .cancelled⟩

/-- A task that waits for a reply gets done after any reply. -/
lemma Waits.exists_ran {c : Call} (h : t.Waits log c) (r : c.Reply) :
    ∃ rest a, t.Ran (log ++ ⟨c, r⟩ :: rest) a := by
  have finishes (t : Task α) : ∃ log a, t.Ran log a := by
    induction t with
    | done a => exact ⟨[], a, .done a⟩
    | ask c k ih =>
      obtain ⟨r⟩ := reply_nonempty c
      obtain ⟨log, a, h⟩ := ih r
      exact ⟨_, a, .ask r h⟩
  induction h with
  | @here c k =>
    obtain ⟨rest, a, h⟩ := finishes (k r)
    exact ⟨rest, a, .ask r h⟩
  | ask r' _ ih =>
    obtain ⟨rest, a, h⟩ := ih r
    exact ⟨rest, a, .ask r' h⟩

end Task

end Parley
