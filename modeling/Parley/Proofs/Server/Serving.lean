import Parley.Proofs.Server.Posting
import Parley.Server.Router

/-!
# Requests to post a message

A request to post a message is answered after some calls (`World.served`). In an idle world, where
nothing else changes the chats meanwhile, what it leaves of them is known from its response and from
what these calls were told (`World.AfterPost`): nothing, the message alone, or the message and one
that holds the place of the reply.
-/

namespace Parley

open Handler

/-- The calls that are replied to while a request is served. -/
def World.served (w : World) (default : String) (request : Http.Request) : List Asked :=
  let (task, stamps) := (respond default request).run w.stamps
  task.log World.answer { w with stamps, cancelAt := none }

/-- A request to post a message, and the part of its path that names a chat if it has one. -/
structure Http.Request.Posts (request : Http.Request) (part : Option (List Char)) : Prop where
  method : request.method = "POST"
  route : Route.ofPath? request.path = some (part.elim .newChat .chat)

lemma respond_post {default : String} {request : Http.Request} {part : Option (List Char)}
    (h : request.Posts part) :
    respond default request =
      pure (complete request (Endpoint.postMessage default part request)) := by
  unfold respond
  rw [h.route, h.method]
  cases part <;> rfl

/-- What a handler came to, as a response. -/
def responseOf : Except Refusal Http.Response → Http.Response
  | .ok r => r
  | .error r => r.response

lemma ran_complete {request : Http.Request} {h : Handler Http.Response} {log : List Asked}
    {response : Http.Response} (hran : (complete request h).Ran log response) :
    ∃ out, Ran h log out ∧ response = withoutBodyFor request (openToAll (responseOf out)) := by
  obtain ⟨front, rest, r, rfl, hrespond, hdone⟩ := Task.ran_bind_iff.1 hran
  obtain ⟨rfl, rfl⟩ := Task.ran_pure_iff.1 hdone
  obtain ⟨out, hout, rfl⟩ := ran_respond_iff.1 hrespond
  rw [List.append_nil]
  refine ⟨out, hout, ?_⟩
  cases out <;> rfl

/-- A request is answered at once, or it is handled by an endpoint of its route. -/
lemma respond_cases (default : String) (request : Http.Request) (stamps : Stamps) :
    (∃ response : Http.Response, (400 ≤ response.status ∧ response.status < 500 ∨
      request.method = "OPTIONS" ∧ response.status = 200) ∧
      (respond default request).run stamps = (pure response, stamps)) ∨
    ∃ route verb endpoint, Route.ofPath? request.path = some route ∧
      (verb, endpoint) ∈ route.endpoints default request ∧ request.method ∈ verb.methods ∧
      (respond default request).run stamps =
        (complete request (endpoint.run stamps).1, (endpoint.run stamps).2) := by
  unfold respond
  dsimp only
  split_ifs with hoptions
  · exact .inl ⟨_, .inr ⟨hoptions, rfl⟩, rfl⟩
  cases hroute : Route.ofPath? request.path with
  | none => exact .inl ⟨openToAll { status := 404 }, by simp [openToAll], rfl⟩
  | some route =>
    cases hfind : (route.endpoints default request).find? (·.1.methods.contains request.method) with
    | none =>
      refine .inl ⟨openToAll { status := 405, headers := route.allowed default request },
        by simp [openToAll], ?_⟩
      simp only [hfind]
      rfl
    | some found =>
      refine .inr ⟨route, found.1, found.2, rfl, List.mem_of_find?_eq_some hfind, ?_, ?_⟩
      · have hmethod := List.find?_some hfind
        exact List.contains_iff_mem.1 hmethod
      · simp only [hfind]
        rfl

lemma complete_status (request : Http.Request) (r : Http.Response) :
    (withoutBodyFor request (openToAll r)).status = r.status := by
  unfold withoutBodyFor
  split_ifs <;> rfl

namespace World

variable {w w' : World} {default : String} {request : Http.Request} {part : Option (List Char)}
  {response : Http.Response}

/-- What passes while a request is handled. -/
lemma serve_handled {h : Handler Http.Response}
    (hrespond : respond default request = pure (complete request h))
    (hserve : w.serve default request = (some response, w')) : ∃ out,
      Ran h (w.served default request) out ∧
      Task.Replied answer { w with cancelAt := none } (w.served default request) w' ∧
      response = withoutBodyFor request (openToAll (responseOf out)) := by
  rw [serve, hrespond] at hserve
  obtain ⟨hran, hreplied⟩ := Task.run_some hserve
  obtain ⟨out, hout, rfl⟩ := ran_complete hran
  rw [served, hrespond]
  exact ⟨out, hout, hreplied, rfl⟩

/-- What passed before a call to which no reply came. -/
lemma serve_lost {h : Handler Http.Response}
    (hrespond : respond default request = pure (complete request h))
    (hserve : w.serve default request = (none, w')) : ∃ c w₁,
      Task.Replied answer { w with cancelAt := none } (w.served default request) w₁ ∧
      answer c w₁ = (none, w') ∧
      ∀ reply, ∃ rest out, Ran h (w.served default request ++ ⟨c, reply⟩ :: rest) out := by
  rw [serve, hrespond] at hserve
  obtain ⟨c, w₁, hwaits, hreplied, hlost⟩ := Task.run_none hserve
  rw [served, hrespond]
  refine ⟨c, w₁, hreplied, hlost, fun reply => ?_⟩
  obtain ⟨rest, response, hran⟩ := hwaits.exists_ran reply
  obtain ⟨out, hout, -⟩ := ran_complete hran
  exact ⟨rest, out, hout⟩

/-- What passes while a message is posted. -/
lemma serve_post (hposts : request.Posts part)
    (h : w.serve default request = (some response, w')) : ∃ out,
      Ran (Endpoint.postMessage default part request) (w.served default request) out ∧
      Task.Replied answer { w with cancelAt := none } (w.served default request) w' ∧
      response = openToAll (responseOf out) := by
  obtain ⟨out, hout, hreplied, rfl⟩ := serve_handled (respond_post hposts) h
  refine ⟨out, hout, hreplied, ?_⟩
  rw [withoutBodyFor, hposts.method]
  rfl

end World

end Parley
