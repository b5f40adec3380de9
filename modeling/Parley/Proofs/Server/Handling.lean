import Parley.Proofs.Task.Log
import Parley.Server.Handler

/-!
# What passes while a handler works

A handler that is done has a result or a refusal (`Handler.Ran`). One that follows another gets to
its own calls only if there was no refusal before (`ran_bind_iff`), and what a handler makes of the
reply to a store call is the reply or a refusal in its own words.
-/

namespace Parley.Handler

variable {α β : Type} {log : List Asked} {out : Except Refusal α}

/-- A handler was done after some calls and replies. -/
def Ran (h : Handler α) (log : List Asked) (out : Except Refusal α) : Prop := Task.Ran h.run log out

lemma ran_pure_iff {a : α} : Ran (pure a) log out ↔ log = [] ∧ out = .ok a := Task.ran_pure_iff

lemma ran_refuse_iff {r : Refusal} :
    Ran (refuse r : Handler α) log out ↔ log = [] ∧ out = .error r := Task.ran_pure_iff

theorem ran_bind_iff {h : Handler α} {f : α → Handler β} {out : Except Refusal β} :
    Ran (h >>= f) log out ↔ (∃ r, Ran h log (.error r) ∧ out = .error r) ∨
      ∃ front rest a, log = front ++ rest ∧ Ran h front (.ok a) ∧ Ran (f a) rest out := by
  rw [Ran, ExceptT.run_bind, Task.ran_bind_iff]
  constructor
  · rintro ⟨front, rest, r | a, rfl, hran, hrest⟩
    · obtain ⟨rfl, rfl⟩ := Task.ran_pure_iff.1 hrest
      rw [List.append_nil]
      exact .inl ⟨r, hran, rfl⟩
    · exact .inr ⟨front, rest, a, rfl, hran, hrest⟩
  · rintro (⟨r, hran, rfl⟩ | ⟨front, rest, a, rfl, hran, hrest⟩)
    · exact ⟨log, [], _, (List.append_nil _).symm, hran, .done _⟩
    · exact ⟨front, rest, _, rfl, hran, hrest⟩

/-- A task that a handler waits for is not refused anything. -/
lemma ran_lift_iff {t : Task α} : Ran (liftM t : Handler α) log out ↔
    ∃ a, out = .ok a ∧ t.Ran log a := by
  have h : Ran (liftM t : Handler α) log out ↔
      Task.Ran (t >>= fun a => pure (.ok a)) log out := Iff.rfl
  rw [h, Task.ran_bind_iff]
  constructor
  · rintro ⟨front, rest, a, rfl, hran, hrest⟩
    obtain ⟨rfl, rfl⟩ := Task.ran_pure_iff.1 hrest
    rw [List.append_nil]
    exact ⟨a, rfl, hran⟩
  · rintro ⟨a, rfl, hran⟩
    exact ⟨log, [], a, (List.append_nil _).symm, hran, .done _⟩

lemma ran_call_bind_iff {c : Call} {f : c.Reply → Handler α} :
    Ran ((liftM (Task.call c) : Handler c.Reply) >>= f) log out ↔
      ∃ reply rest, log = ⟨c, reply⟩ :: rest ∧ Ran (f reply) rest out :=
  Task.ran_ask_iff

/-- The reply of a store, or a refusal with a message if the store failed. -/
def told {ε : Type} (reply : Except ε α) (message : String) : Except Refusal α :=
  reply.mapError fun _ => .internal message

@[simp] lemma told_error {ε : Type} (e : ε) (message : String) :
    told (.error e : Except ε α) message = .error (.internal message) := rfl

@[simp] lemma told_ok {ε : Type} (a : α) (message : String) :
    told (.ok a : Except ε α) message = .ok a := rfl

lemma ran_chats_iff {c : ChatCall} {message : String} {out : Except Refusal c.Reply} :
    Ran (chats c message) log out ↔
      ∃ reply, log = [⟨.chats c, reply⟩] ∧ out = told reply message := by
  rw [chats, Task.chats, ran_call_bind_iff]
  refine exists_congr fun reply => ?_
  cases reply with
  | error e => simp [ran_refuse_iff, and_left_comm]
  | ok a => simp [ran_pure_iff, and_left_comm]

lemma ran_agents_iff {c : AgentCall} {message : String} {out : Except Refusal c.Reply} :
    Ran (agents c message) log out ↔
      ∃ reply, log = [⟨.agents c, reply⟩] ∧ out = told reply message := by
  rw [agents, Task.agents, ran_call_bind_iff]
  refine exists_congr fun reply => ?_
  cases reply with
  | error e => simp [ran_refuse_iff, and_left_comm]
  | ok a => simp [ran_pure_iff, and_left_comm]

lemma ran_stamp_iff {out : Except Refusal Stamp} :
    Ran stamp log out ↔ ∃ stamp : Stamp, log = [⟨.stamp, stamp⟩] ∧ out = .ok stamp := by
  rw [stamp, ran_lift_iff]
  refine exists_congr fun stamp => ?_
  rw [Task.stamp, Task.ran_call_iff, and_comm]

lemma ran_orAbsent_iff {found : Option α} {kind : String} {id : Id} :
    Ran (orAbsent found kind id) log out ↔
      log = [] ∧ out = found.elim (.error (.absent kind id)) .ok := by
  cases found with
  | none => exact ran_refuse_iff
  | some a => exact ran_pure_iff

lemma ran_ofExcept_iff {x : Except Refusal α} : Ran (ofExcept x) log out ↔ log = [] ∧ out = x := by
  cases x with
  | error r => exact ran_refuse_iff
  | ok a => exact ran_pure_iff

/-- The response says what the handler came to. -/
lemma ran_respond_iff {h : Handler Http.Response} {response : Http.Response} :
    (respond h).Ran log response ↔ ∃ out, Ran h log out ∧
      response = match out with | .ok r => r | .error r => r.response := by
  rw [respond, Task.ran_bind_iff]
  constructor
  · rintro ⟨front, rest, r | a, rfl, hran, hrest⟩ <;>
    · obtain ⟨rfl, rfl⟩ := Task.ran_pure_iff.1 hrest
      rw [List.append_nil]
      exact ⟨_, hran, rfl⟩
  · rintro ⟨r | a, hran, rfl⟩ <;> exact ⟨log, [], _, (List.append_nil _).symm, hran, .done _⟩

end Parley.Handler
