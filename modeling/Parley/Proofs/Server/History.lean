import Parley.Proofs.Server.Accounting

/-!
# The whole history of a store

A `World.History` begins with an empty store. Requests to post a message or to delete a chat are
handled one after the other, while any number of replies are read, waited for or dropped between
them. Whenever no reply is under way, every chat is made of what its accounts left, and nothing else
(`History.accounted`).
-/

namespace Parley

open Relay (Answered deltas)
open Account (answers)

namespace Account

/-- The reply to the message, if it was kept. -/
def kept? (a : Account) : Option Message := a.answer.bind (·.kept?)

/-- What there is of an account in the end: the message, and the reply if it was kept. -/
def left (a : Account) : List Message := a.sent :: a.kept?.toList

end Account

namespace World

/-- What can happen from when a store is empty, with the accounts of the messages that were saved
and the chats that were deleted on request. No identifier is drawn twice, and a chat that is given
up is deleted. A response to a message is relayed pull by pull, each of which may be broken off at a
cutoff, until it is dropped. Between these steps time may pass, and anything may change beside the
chats. -/
inductive History : World → List Account → List Id → Prop
  | start {w : World} (hchats : w.chats.memory.chats = []) (hcleanups : w.cleanups = [])
    (hw : w.Obliging) : History w [] []
  | posted {w w' : World} {accounts : List Account} {deleted : List Id} {default : String}
    {request : Http.Request} {part : Option (List Char)} {response : Option Http.Response}
    (h : History w accounts deleted) (hposts : request.Posts part) (hcutoff : w.cutoff = none)
    (hserve : w.serve default request = (response, w'))
    (hdeletes : ∀ id reply, ⟨.chats (.delete id), reply⟩ ∈ w.served default request →
      reply = .ok true)
    (hdistinct : w'.stamps.Distinct) :
    History w' (accounts ++ (Account.ofPost (w.served default request) response).toList) deleted
  | removed {w w' : World} {accounts : List Account} {deleted : List Id} {default : String}
    {request : Http.Request} {part : List Char} {response : Option Http.Response}
    (h : History w accounts deleted) (hdeletes : request.Deletes part)
    (hserve : w.serve default request = (response, w')) :
    History w' accounts (deleted ++ (w.served default request).filterMap Asked.erased?)
  | pulled {w w' : World} {front rest : List Account} {a : Account} {b : Answer}
    {deleted : List Id} {p : Pull} {log : List Relay.Exchange} {s : Stream} {r : Relay}
    (h : History w (front ++ a :: rest) deleted) (ha : a.answer = some b)
    (hlive : b.dropped = false)
    (hpull : w.pull (.reply b.relay b.stream) = (p, .reply r s, w'))
    (hpulled : Pulled w b.stream b.relay p log w' s r) :
    History w' (front ++ a.update (b.after log s r) :: rest) deleted
  | dropped {w : World} {front rest : List Account} {a : Account} {b : Answer} {deleted : List Id}
    (h : History w (front ++ a :: rest) deleted) (ha : a.answer = some b)
    (hlive : b.dropped = false) :
    History (w.abandon (.reply b.relay b.stream))
      (front ++ a.update { b with dropped := true } :: rest) deleted
  | paused {w : World} {accounts : List Account} {deleted : List Id}
    (h : History w accounts deleted) (t : Nat) : History (w.advance t) accounts deleted
  | beside {w w' : World} {accounts : List Account} {deleted : List Id}
    (h : History w accounts deleted) (hbeside : w.Beside w') : History w' accounts deleted

/-- No reply is under way: each was read to its end or dropped, and the messages of those that were
given up are deleted. -/
structure Quiet (w : World) (accounts : List Account) : Prop where
  settled : ∀ b ∈ answers accounts, b.IsOver
  tidied : w.cleanups = []

/-- The chats are what the accounts left. -/
structure Accounted (w : World) (accounts : List Account) (deleted : List Id) : Prop where
  /-- A chat has what the accounts in it left, in order. -/
  messages : ∀ c ∈ w.chats.memory.chats,
    c.messages = (accounts.filter (·.chatId = c.id)).flatMap (·.left)
  /-- No two messages in all chats have one identifier. -/
  distinct : (w.chats.memory.chats.flatMap fun c => c.messages.map (·.id)).Nodup
  /-- A chat begins with the message that it was made for. -/
  first : ∀ c ∈ w.chats.memory.chats, ∃ a ∈ accounts, a.opens ∧ a.chatId = c.id ∧
    a.sent.sender = .human ∧ ∃ rest, c.messages = a.sent :: rest
  /-- A reply in a chat was kept for an account in it. -/
  reply : ∀ c ∈ w.chats.memory.chats, ∀ m ∈ c.messages, m.sender = .ai →
    ∃ a ∈ accounts, a.chatId = c.id ∧ a.kept? = some m
  /-- What was kept was written, and is all that the model sent. -/
  whole : ∀ b ∈ answers accounts, ∀ m, b.kept? = some m →
    Answered b.log (.save m.id m.content) (.saved (.ok true)) ∧
      m.content = Text.trimStart (String.join (deltas b.log)) ∧
      b.source.feed.items.map (·.value) = (deltas b.log).map .ok
  /-- What an account left is in its chat, unless that was deleted. -/
  there : ∀ a ∈ accounts, a.chatId ∉ deleted → ∃ c ∈ w.chats.memory.chats, c.id = a.chatId ∧
    ∃ front rest, c.messages = front ++ a.left ++ rest
  /-- Of a reply that was not kept nothing is left. -/
  gone : ∀ b ∈ answers accounts, b.kept? = none →
    ∀ c ∈ w.chats.memory.chats, ∀ m ∈ c.messages, m.id ≠ b.message.id

variable {w : World} {doomed : List Id} {accounts : List Account} {deleted : List Id}

lemma balanced_start (hchats : w.chats.memory.chats = []) (hcleanups : w.cleanups = [])
    (hw : w.Obliging) : w.Balanced w.doomed none [] [] := by
  have hdoomed : w.doomed = [] := by rw [World.doomed, hcleanups, List.map_nil]
  rw [hdoomed]
  refine ⟨⟨fun _ => none, ?_, List.forall_mem_nil _⟩, List.forall_mem_nil _, List.forall_mem_nil _,
    List.forall_mem_nil _⟩
  constructor
  case obliging => exact hw
  case tells => exact ⟨by simp [Ledger.ids, hchats], by simp [hchats]⟩
  case apart => exact List.nodup_nil
  case first => simp [Ledger.ids, hchats]
  case there => exact List.forall_mem_nil _
  case chatDrawn => simp [Ledger.ids, hchats]
  case drawn => exact List.forall_mem_nil _

theorem History.balanced (h : History w accounts deleted) :
    w.Balanced w.doomed none accounts deleted := by
  induction h with
  | start hchats hcleanups hw => exact balanced_start hchats hcleanups hw
  | posted _ hposts hcutoff hserve hdeletes hdistinct ih =>
    exact ih.posted hposts hcutoff hserve hdeletes hdistinct
  | removed _ hdeletes hserve ih => exact ih.removed hdeletes hserve
  | pulled _ ha hlive _ hpulled ih => exact ih.pulled ha hlive hpulled
  | dropped _ ha hlive ih => exact ih.abandoned ha hlive
  | paused _ t ih => exact ih.advance t
  | beside _ hbeside ih => exact ih.lapse hbeside.lapse

lemma Balanced.messages_eq {shown : Id → Option String} {a : Account} (hquiet : w.Quiet accounts)
    (hshows : ∀ b ∈ answers accounts, b.Shows w.doomed (shown b.message.id)) (ha : a ∈ accounts) :
    a.round.messages shown = a.left := by
  rw [Round.messages, Account.left, Account.kept?, Account.round]
  cases hb : a.answer with
  | none => rfl
  | some b =>
    have hmem : b ∈ answers accounts := Account.mem_answers.2 ⟨a, ha, hb⟩
    have hdoomed : b.message.id ∉ w.doomed := by simp [World.doomed, hquiet.tidied]
    rw [Option.map_some, Option.bind_some, Option.bind_some, Round.shownReply, Answer.kept?]
    cases hkept : b.isKept with
    | true => simp [(hshows b hmem).kept hkept]
    | false => simp [(hshows b hmem).gone hkept (hquiet.settled b hmem) hdoomed]

lemma Balanced.first_account {c : Chat} (h : w.Balanced doomed none accounts deleted)
    (hc : c ∈ w.chats.memory.chats) :
    ∃ a rest, accounts.filter (·.chatId = c.id) = a :: rest ∧ a.opens := by
  obtain ⟨shown, hbooks, -⟩ := h.books
  obtain ⟨r, hr, hopens⟩ := hbooks.first c.id (List.mem_map_of_mem hc) nofun
  rw [List.find?_map, Option.map_eq_some_iff] at hr
  obtain ⟨a, ha, rfl⟩ := hr
  rw [← List.head?_filter, List.head?_eq_some_iff] at ha
  obtain ⟨rest, hrest⟩ := ha
  exact ⟨a, rest, hrest, hopens⟩

/-- A chat has what its accounts left. -/
lemma Balanced.messages {c : Chat} (h : w.Balanced w.doomed none accounts deleted)
    (hquiet : w.Quiet accounts) (hc : c ∈ w.chats.memory.chats) :
    c.messages = (accounts.filter (·.chatId = c.id)).flatMap (·.left) := by
  obtain ⟨shown, hbooks, hshows⟩ := h.books
  rw [hbooks.tells.messages c hc, List.filter_map, List.flatMap_map]
  refine List.flatMap_congr fun a ha => ?_
  exact Balanced.messages_eq hquiet hshows (List.mem_filter.1 ha).1

lemma Balanced.mem_left {c : Chat} {m : Message} (h : w.Balanced w.doomed none accounts deleted)
    (hquiet : w.Quiet accounts) (hc : c ∈ w.chats.memory.chats) (hm : m ∈ c.messages) :
    ∃ a ∈ accounts, a.chatId = c.id ∧ m ∈ a.left := by
  rw [h.messages hquiet hc] at hm
  obtain ⟨a, ha, hma⟩ := List.mem_flatMap.1 hm
  obtain ⟨ha, hchat⟩ := List.mem_filter.1 ha
  exact ⟨a, ha, of_decide_eq_true hchat, hma⟩

/-- An account is in its chat as long as that is there. -/
lemma Balanced.left_there {a : Account} (h : w.Balanced w.doomed none accounts deleted)
    (hquiet : w.Quiet accounts) (ha : a ∈ accounts) (hgone : a.chatId ∉ deleted) :
    ∃ c ∈ w.chats.memory.chats, c.id = a.chatId ∧
      ∃ front rest, c.messages = front ++ a.left ++ rest := by
  obtain ⟨shown, hbooks, -⟩ := h.books
  have hid := (hbooks.there a.round (List.mem_map_of_mem ha)).resolve_left hgone
  obtain ⟨c, hc, hchat⟩ := List.mem_map.1 hid
  have hmem : a ∈ accounts.filter (·.chatId = c.id) :=
    List.mem_filter.2 ⟨ha, decide_eq_true hchat.symm⟩
  obtain ⟨front, rest, hfilter⟩ := List.append_of_mem hmem
  refine ⟨c, hc, hchat, front.flatMap (·.left), rest.flatMap (·.left), ?_⟩
  rw [h.messages hquiet hc, hfilter, List.flatMap_append, List.flatMap_cons, List.append_assoc]

/-- No message of a chat has the identifier of an answer that was not kept. -/
lemma Balanced.unkept_gone {b : Answer} (h : w.Balanced w.doomed none accounts deleted)
    (hquiet : w.Quiet accounts) (hb : b ∈ answers accounts) (hnone : b.kept? = none) :
    ∀ c ∈ w.chats.memory.chats, ∀ m ∈ c.messages, m.id ≠ b.message.id := by
  intro c hc m hm hid
  obtain ⟨shown, hbooks, -⟩ := h.books
  obtain ⟨a, ha, -, hma⟩ := h.mem_left hquiet hc hm
  obtain rfl | hkept := List.mem_cons.1 hma
  · exact Account.sent_ne hbooks.apart hb a.round (List.mem_map_of_mem ha) hid
  · obtain ⟨b', hb', hm'⟩ := Option.bind_eq_some_iff.1 (Option.mem_toList.1 hkept)
    have hsame : b'.message.id = b.message.id := (Answer.kept?_id hm').symm.trans hid
    obtain rfl := List.inj_on_of_nodup_map (Account.answers_nodup hbooks.apart)
      (Account.mem_answers.2 ⟨a, ha, hb'⟩) hb hsame
    rw [hnone] at hm'
    cases hm'

/-- Whatever happened since the store was empty, a quiet world is accounted for. -/
theorem History.accounted (h : History w accounts deleted) (hquiet : w.Quiet accounts) :
    w.Accounted accounts deleted := by
  have hbalanced := h.balanced
  obtain ⟨shown, hbooks, -⟩ := hbalanced.books
  constructor
  case messages => exact fun c hc => hbalanced.messages hquiet hc
  case distinct => exact hbooks.tells.messages_nodup hbooks.apart
  case first =>
    intro c hc
    obtain ⟨a, rest, hfilter, hopens⟩ := hbalanced.first_account hc
    obtain ⟨ha, hchat⟩ := List.mem_filter.1 (hfilter ▸ List.mem_cons_self)
    refine ⟨a, ha, hopens, of_decide_eq_true hchat, hbalanced.human a ha,
      a.kept?.toList ++ rest.flatMap (·.left), ?_⟩
    rw [hbalanced.messages hquiet hc, hfilter]
    rfl
  case reply =>
    intro c hc m hm hsender
    obtain ⟨a, ha, hchat, hma⟩ := hbalanced.mem_left hquiet hc hm
    obtain rfl | hkept := List.mem_cons.1 hma
    · have hhuman := hbalanced.human a ha
      rw [hsender] at hhuman
      cases hhuman
    · exact ⟨a, ha, hchat, Option.mem_toList.1 hkept⟩
  case whole =>
    intro b hb m hm
    have hsound := hbalanced.sound b hb
    unfold Answer.kept? at hm
    split_ifs at hm with hkept
    obtain rfl := Option.some.inj hm
    exact ⟨hsound.isKept_iff.1 hkept, rfl, hsound.whole hkept⟩
  case there => exact fun a ha hgone => hbalanced.left_there hquiet ha hgone
  case gone => exact fun b hb hnone => hbalanced.unkept_gone hquiet hb hnone

/-- A reply under way can be pulled. -/
lemma History.pull (front rest : List Account) {a : Account} {b : Answer}
    (h : History w (front ++ a :: rest) deleted) (ha : a.answer = some b)
    (hlive : b.dropped = false) : ∃ log s r,
      (w.pull (.reply b.relay b.stream)).2.1 = .reply r s ∧
        History (w.pull (.reply b.relay b.stream)).2.2 (front ++ a.update (b.after log s r) :: rest)
          deleted := by
  rcases hpull : w.pull (.reply b.relay b.stream) with ⟨p, body, w'⟩
  obtain ⟨log, s, r, rfl, hpulled⟩ := pull_pulled hpull
  exact ⟨log, s, r, rfl, h.pulled ha hlive hpull hpulled⟩

/-- A first message is posted, and the reply to it is read to its end. -/
theorem History.accounted_hello : ∃ w accounts, History w accounts [] ∧ w.Quiet accounts ∧
    (w.chats.memory.chats.map fun c => c.messages.map fun m => (m.sender, m.content)) =
      [[(.human, "hi"), (.ai, "hello")]] ∧ w.Accounted accounts [] := by
  let feed : Feed := { items := [.atOnce (.ok " hello")] }
  let w : World :=
    { model := ⟨fun _ _ => .atOnce (.ok ""), fun _ _ => .atOnce (.ok feed)⟩
      stamps := ⟨fun n => ⟨.ofNat n, default⟩, 0⟩ }
  let request : Http.Request :=
    { method := "POST"
      path := "/api/chat".toList
      headers := [("content-type", "application/x-www-form-urlencoded")]
      body := Text.Utf8.ofString "intent=sendMessage&message=hi" }
  let w₁ := (w.serve "" request).2
  let account := Account.ofPost (w.served "" request) (w.serve "" request).1
  have hw : w.Obliging := ⟨fun _ => rfl, List.forall_mem_nil _, fun _ => nofun, rfl, nofun⟩
  have hposts : request.Posts none := ⟨rfl, by decide +kernel⟩
  have hundeleted : (w.served "" request).all fun x =>
      !x.call.writes || x.creates || x.sent?.isSome || x.placed?.isSome := by decide +kernel
  have hserve : w.serve "" request = ((w.serve "" request).1, w₁) := Prod.eta _
  have hposted := (History.start rfl rfl hw).posted hposts rfl hserve
      (fun id reply hmem => absurd (List.all_eq_true.1 hundeleted _ hmem) Bool.false_ne_true)
      (by decide +kernel)
  have hanswer : (account.bind (·.answer)).isSome := by decide +kernel
  obtain ⟨b, hb⟩ := Option.isSome_iff_exists.1 hanswer
  obtain ⟨a, ha, hab⟩ := Option.bind_eq_some_iff.1 hb
  have hofPost : Account.ofPost (w.served "" request) (w.serve "" request).1 = some a := ha
  rw [hofPost] at hposted
  have hread : ∀ b ∈ account.bind (·.answer),
      let first := w₁.pull (.reply b.relay b.stream)
      let second := first.2.2.pull first.2.1
      let last := second.2.2.abandon second.2.1
      b.dropped = false ∧ last.cleanups.isEmpty ∧
        (last.chats.memory.chats.map fun c => c.messages.map fun m => (m.sender, m.content)) =
          [[(.human, "hi"), (.ai, "hello")]] := by decide +kernel
  obtain ⟨hlive, hcleanups, hchats⟩ := hread b hb
  obtain ⟨log₁, s₁, r₁, hfirst, hpulled₁⟩ := hposted.pull [] [] hab hlive
  rw [hfirst] at hcleanups hchats
  obtain ⟨log₂, s₂, r₂, hsecond, hpulled₂⟩ := hpulled₁.pull [] [] rfl hlive
  dsimp only [Answer.after] at hsecond
  rw [hsecond] at hcleanups hchats
  have hdropped : History _ ([] ++ _ :: []) _ := hpulled₂.dropped rfl hlive
  suffices hquiet : World.Quiet _ _ from ⟨_, _, hdropped, hquiet, hchats, hdropped.accounted hquiet⟩
  exact ⟨List.forall_mem_singleton.2 (.inr rfl), List.isEmpty_iff.1 hcleanups⟩

end World

end Parley
