import Parley.Proofs.Agent.Single
import Parley.Proofs.Text.Digits
import Parley.Server.Setup

/-!
# Times that a setup allows

A setup may give the model any number of seconds that has 64 bits, for a step and for an answer. A
step whose limit the clock does not get to has one far away instead, and so steps never break a run
off. The deadline of an answer has to be a time of the clock: a run is broken off exactly if it gets
to its answer when the clock cannot count that far (`Setup.run_broken_off_iff`).
-/

namespace Parley

/-- The clock does not get to the end of a number of seconds if it cannot count that far. -/
lemma Clock.after?_eq_none_iff (now secs : Nat) :
    after? now (secs * 1000) = none ↔ seconds ≤ now / 1000 + secs := by
  have hsum : (now + secs * 1000) / 1000 = now / 1000 + secs :=
    Nat.add_mul_div_right now secs (by decide)
  rw [after?, hsum, ite_eq_right_iff, imp_iff_not (by simp), Nat.not_lt]

namespace World

variable {w w' : World} {r : Request}

/-- Without a cutoff, the wait for the model is over at some time. -/
lemma attend_ne_none {α : Type} (hcutoff : w.cutoff = none) (d : Delayed (Except RunError α))
    (deadline limit : Nat) : (w.attend d deadline limit).1 ≠ none := by
  rcases hattend : w.attend d deadline limit with ⟨reply, w'⟩
  obtain ⟨-, ⟨-, hcut⟩ | ⟨outcome, rfl, -⟩⟩ := attend_reply hattend
  · exact absurd hcutoff hcut
  · exact nofun

lemma askStream_eq_none_iff (hcutoff : w.cutoff = none) :
    (w.askStream r).1 = none ↔ Clock.after? w.now w.limits.stream = none := by
  refine ⟨fun hlost => ?_, fun hclock => by rw [askStream_of_none r hclock]⟩
  by_contra hclock
  exact (askStream_of_ne_none hclock (Prod.ext hlost rfl)).2.2 rfl hcutoff

lemma perform_bind {α β : Type} (w : World) (t : Task α) (f : α → Task β) :
    w.perform (t >>= f) = match w.perform t with
      | (none, w') => (none, w')
      | (some a, w') => w'.perform (f a) := by
  refine (Task.run_bind answer t f w).trans ?_
  rw [perform]
  rcases t.run answer w with ⟨_ | a, w'⟩ <;> rfl

/-- Steps are done without a cutoff, well or badly. -/
lemma perform_prepare (hcutoff : w.cutoff = none) (gs : List GatedPrompt) (c : Context) :
    ∃ c' out w', w.perform (Plan.prepare gs c) = (some (c', out), w') := by
  rcases hrun : w.perform (Plan.prepare gs c) with ⟨_ | ⟨c', out⟩, w'⟩
  · obtain ⟨call, w₁, hwaits, hreplied, hlost⟩ := Task.run_none hrun
    obtain ⟨r⟩ := Task.reply_nonempty call
    obtain ⟨rest, ⟨c', out⟩, hran⟩ := hwaits.exists_ran r
    obtain ⟨stages, -, hlog⟩ := Plan.ran_prepare_iff.1 hran
    have hcall : ⟨call, r⟩ ∈ stages.flatMap (·.calls) :=
      hlog ▸ List.mem_append_right _ List.mem_cons_self
    obtain ⟨stage, -, hstage⟩ := List.mem_flatMap.1 hcall
    obtain ⟨request, reply, hinvoke⟩ := stage.calls_invoke hstage
    cases hinvoke
    have hcut : w₁.cutoff = none := (replied_asks hreplied).alike.cutoff.trans hcutoff
    exact absurd hcut (askModel_lost hlost)
  · exact ⟨c', out, w', rfl⟩

end World

namespace Plan

variable {p : Plan} {c c' : Context} {w w₁ : World}

/-- A step that failed ends a run. -/
lemma perform_run_failed {e : RunError}
    (h : w.perform (prepare p.gated c) = (some (c', .error e), w₁)) :
    w.perform (p.run c) = (some (c', .error e), w₁) := by
  rw [run, World.perform_bind, h]
  rfl

/-- After the steps, a run comes to what the opening of the stream comes to. -/
lemma perform_run (h : w.perform (prepare p.gated c) = (some (c', .ok ()), w₁)) :
    w.perform (p.run c) = ((w₁.askStream (p.answer.request c')).1.map (c', ·),
      (w₁.askStream (p.answer.request c')).2) := by
  rw [run, World.perform_bind, h, ← World.perform_openStream]

/-- A run is broken off where the clock does not get as far as the deadline of its answer, and
nowhere else. -/
theorem run_lost_iff (hcutoff : w.cutoff = none) :
    (w.perform (p.run c)).1 = none ↔ ∃ stages c' w₁, Prepares p.gated c stages c' none ∧
      Task.Replied World.answer w (stages.flatMap (·.calls)) w₁ ∧
      Clock.after? w₁.now w.limits.stream = none := by
  have hopening {stages : List Stage} {c' : Context} {w₁ : World}
      (hreplied : Task.Replied World.answer w (stages.flatMap (·.calls)) w₁)
      (hprepare : w.perform (prepare p.gated c) = (some (c', .ok ()), w₁)) :
      (w.perform (p.run c)).1 = none ↔ Clock.after? w₁.now w.limits.stream = none := by
    have halike := (World.replied_asks hreplied).alike
    rw [perform_run hprepare, Option.map_eq_none_iff,
      World.askStream_eq_none_iff (halike.cutoff.trans hcutoff), halike.limits]
  constructor
  · intro hlost
    obtain ⟨c', e | ⟨⟩, w₁, hprepare⟩ := World.perform_prepare hcutoff p.gated c
    · rw [perform_run_failed hprepare] at hlost
      cases hlost
    · obtain ⟨hran, hreplied⟩ := Task.run_some hprepare
      obtain ⟨stages, hstages, hlog⟩ := ran_prepare_iff.1 hran
      rw [hlog] at hreplied
      exact ⟨stages, c', w₁, hstages, hreplied, (hopening hreplied hprepare).1 hlost⟩
  · rintro ⟨stages, c', w₁, hstages, hreplied, hclock⟩
    have hran := (@ran_prepare_iff _ _ _ _ (.ok ())).2 ⟨stages, hstages, rfl⟩
    exact (hopening hreplied (Task.run_of_ran hran hreplied)).2 hclock

end Plan

namespace Setup

variable {get? : String → Option String} {w : World} {n : Nat}

lemma seconds?_toString (hn : n ≤ Text.largestWord) : seconds? (toString n) = some n := by
  have hplain : ∀ c ∈ (toString n).toList, ¬Text.isBlank c := by
    rw [← Text.padded_zero]
    intro c hc
    rw [(Text.plain_of_isDigit (Text.isDigit_of_mem_padded c hc)).1]
    exact Bool.false_ne_true
  rw [seconds?, Text.Chars.trim_of_plain hplain, Text.unsigned?_toString hn]

/-- A time that is set has 64 bits, and so has one that is not. -/
lemma getD_seconds?_le {name : String} {default : Nat} (hdefault : default ≤ Text.largestWord) :
    ((get? name).bind seconds?).getD default ≤ Text.largestWord := by
  cases hset : (get? name).bind seconds? with
  | none => exact hdefault
  | some n =>
    obtain ⟨s, -, hs⟩ := Option.bind_eq_some_iff.1 hset
    exact Text.unsigned?_le hs

lemma streamTime_le : (ofVariables get?).streamTime ≤ Text.largestWord :=
  getD_seconds?_le (by decide)

lemma streamTime_eq (hn : n ≤ Text.largestWord)
    (h : get? "STREAM_TIMEOUT_SECS" = some (toString n)) : (ofVariables get?).streamTime = n := by
  change ((get? "STREAM_TIMEOUT_SECS").bind seconds?).getD _ = n
  rw [h, Option.bind_some, seconds?_toString hn, Option.getD_some]

/-- The time for an answer may be any number of seconds that has 64 bits. Whatever is set, a step
comes to its end. An answer has a deadline only if the clock can count that far, and a run without a
cutoff is broken off exactly if it gets to its answer when there is no such deadline. -/
theorem run_broken_off_iff (hlimits : w.limits = (ofVariables get?).limits)
    (hcutoff : w.cutoff = none) :
    (ofVariables get?).streamTime ≤ Text.largestWord ∧
    (∀ n ≤ Text.largestWord, get? "STREAM_TIMEOUT_SECS" = some (toString n) →
      (ofVariables get?).streamTime = n) ∧
    (∀ r, (World.answer (.invoke r) w).1 ≠ none) ∧
    (Clock.after? w.now w.limits.stream = none ↔
      Clock.seconds ≤ w.now / 1000 + (ofVariables get?).streamTime) ∧
    ∀ (p : Plan) (c : Context), (w.perform (p.run c)).1 = none ↔ ∃ stages c' w₁,
      Plan.Prepares p.gated c stages c' none ∧
      Task.Replied World.answer w (stages.flatMap (·.calls)) w₁ ∧
      Clock.seconds ≤ w₁.now / 1000 + (ofVariables get?).streamTime := by
  have hstream : w.limits.stream = (ofVariables get?).streamTime * 1000 := by
    rw [hlimits]
    rfl
  refine ⟨streamTime_le, fun n hn => streamTime_eq hn, fun r => ?_, ?_, fun p c => ?_⟩
  · exact World.attend_ne_none (w := w.invoking r _) hcutoff _ _ _
  · rw [hstream, Clock.after?_eq_none_iff]
  · simp only [Plan.run_lost_iff hcutoff, hstream, Clock.after?_eq_none_iff]

/-- With the longest time that the clock can count, an answer has to be asked for in the first
second of the clock. -/
theorem run_broken_off_iff_edge :
    let get? := ofStreamTime " +9223372036854775807 "
    ((worldAt 999 get?).limits = (ofVariables get?).limits ∧ (worldAt 999 get?).cutoff = none ∧
      ((worldAt 999 get?).perform ((Plan.default "s").run (.ofHistory "hello" []))).1 ≠ none) ∧
    (worldAt 1000 get?).limits = (ofVariables get?).limits ∧ (worldAt 1000 get?).cutoff = none ∧
      ((worldAt 1000 get?).perform ((Plan.default "s").run (.ofHistory "hello" []))).1 = none := by
  intro get?
  have htime : (ofVariables get?).streamTime = 9223372036854775807 := by rfl
  have hlimits (now : Nat) : (worldAt now get?).limits = (ofVariables get?).limits := rfl
  refine ⟨⟨hlimits 999, rfl, fun hlost => ?_⟩, hlimits 1000, rfl, ?_⟩
  · obtain ⟨-, -, -, -, hruns⟩ := run_broken_off_iff (hlimits 999) rfl
    obtain ⟨stages, c', w₁, hstages, hreplied, hclock⟩ := (hruns _ _).1 hlost
    cases hstages
    cases hreplied
    rw [htime] at hclock
    exact absurd hclock (by decide)
  · obtain ⟨-, -, -, -, hruns⟩ := run_broken_off_iff (hlimits 1000) rfl
    refine (hruns _ _).2 ⟨[], _, worldAt 1000 get?, .done _, .none _, ?_⟩
    rw [htime]
    decide

/-- Not every time that can be set is one that the clock can count: with the longest of them, no
answer is ever asked for. -/
theorem run_broken_off :
    ¬∀ (get? : String → Option String) (w : World) (p : Plan) (c : Context),
      w.limits = (ofVariables get?).limits → w.cutoff = none →
      (w.perform (p.run c)).1 ≠ none := by
  intro h
  let get? := ofStreamTime "18446744073709551615"
  have htime : (ofVariables get?).streamTime = 18446744073709551615 := by rfl
  refine h get? (worldAt 0 get?) (Plan.default "s") (.ofHistory "hello" []) rfl rfl ?_
  refine (Plan.run_lost_iff rfl).2 ⟨[], _, worldAt 0 get?, .done _, .none _, ?_⟩
  exact (Clock.after?_eq_none_iff 0 _).2 (by rw [htime]; decide)

end Setup

end Parley
