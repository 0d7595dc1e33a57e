import TorOnion.Library.Runs
import TorOnion.MessageDispatcher.Dispatcher

/-!
# Two dispatchers and what is between them

Two dispatchers send requests to each other, over a transport that delivers each message at most
once and in any order, and the promises of their commands are settled in any order.  Ids are
unique on one side only: both sides may use the same ones, and requests and replies travel
together.

Each request that is waited for is in one of three places: in flight to the other side, awaited
there, or in flight back as a reply.  `Exchange.tokens` gathers the ids from the three places, each
with the promise of its request, and the invariant says that they are the entries of `_messages`
(`SideInv.table`).  A step moves a token from one place to the next, and a reply is the end of its
token and of its entry alike.  So a reply always finds the entry of its own request, whatever else
happens.

A message and an awaited promise carry here the promise of the request that they belong to, as
`origin`.  No dispatcher sees it: it only says which request is which.  Requests that a command
posts while it runs are steps of their own.
-/

namespace TorOnion

namespace MessageDispatcher

/-! ## The model -/

inductive Side
  | left
  | right
  deriving DecidableEq

def Side.peer : Side → Side
  | left => right
  | right => left

@[simp] lemma Side.peer_peer (side : Side) : side.peer.peer = side := by
  cases side <;> rfl

@[simp] lemma Side.peer_ne (side : Side) : side.peer ≠ side := by
  cases side <;> decide

@[simp] lemma Side.ne_peer (side : Side) : side ≠ side.peer := side.peer_ne.symm

lemma Side.eq_or_eq_peer (s side : Side) : s = side ∨ s = side.peer := by
  cases s <;> cases side <;> simp [peer]

/-- A message in flight. -/
structure Envelope (Args Value Obj : Type*) where
  message : Message Args Value Obj
  origin : ℕ

/-- A promise that a command has returned, with the id that its outcome is sent to. -/
structure Awaited where
  id : String
  origin : ℕ

/-- Both sides.  `inFlight` and the history are indexed by the side that messages go to and that
requests come from.  Of each request the history has the id it was posted with, the outcome that
its command produced, what its promise was settled with, and whether a reply was delivered. -/
structure Exchange (Args Value Obj Err : Type*) where
  dispatcher : Side → MessageDispatcher
  inFlight : Side → List (Envelope Args Value Obj)
  awaited : Side → List Awaited
  posted : Side → List String
  produced : Side → List (ℕ × Outcome Value Err)
  settled : Side → List (ℕ × Outcome Value Err)
  answered : Side → List ℕ

variable {Args Value Obj Err : Type*}

namespace Exchange

open Function (update)

def init : Exchange Args Value Obj Err where
  dispatcher _ := .new
  inFlight _ := []
  awaited _ := []
  posted _ := []
  produced _ := []
  settled _ := []
  answered _ := []

/-- What an effect of one side's dispatcher does. -/
def perform (x : Exchange Args Value Obj Err) (side : Side) (origin : ℕ) :
    Effect Args Value Obj Err → Exchange Args Value Obj Err
  | .settle promise outcome =>
      { x with settled := update x.settled side (x.settled side ++ [(promise, outcome)]) }
  | .post message =>
      { x with
        inFlight := update x.inFlight side.peer (x.inFlight side.peer ++ [⟨message, origin⟩]) }
  | .await id => { x with awaited := update x.awaited side (x.awaited side ++ [⟨id, origin⟩]) }
  | .warn _ => x
  | .throw _ => x

section Steps

variable (cfg : Side → Config Args Value Obj Err)

/-- `postRequest` on one side. -/
def post (x : Exchange Args Value Obj Err) (side : Side) (requestType : String) (args : Args) :
    Exchange Args Value Obj Err :=
  let d := x.dispatcher side
  let result := postRequest (cfg side) d requestType args none
  perform
    { x with
      dispatcher := update x.dispatcher side result.1
      posted := update x.posted side
        (x.posted side ++ [(nextId (cfg side).idPrefix d.requestId).1]) }
    side d.promises result.2

/-- `handleMessage` on one side, of a message that leaves `rest` in flight. -/
def deliver (x : Exchange Args Value Obj Err) (side : Side) (env : Envelope Args Value Obj)
    (rest : List (Envelope Args Value Obj)) : Exchange Args Value Obj Err :=
  let result := handleMessage (cfg side) (x.dispatcher side) env.message
  perform
    { x with
      dispatcher := update x.dispatcher side result.1
      inFlight := update x.inFlight side rest
      answered :=
        if (env.message.asReply (cfg side)).isSome then
          update x.answered side (x.answered side ++ [env.origin])
        else x.answered }
    side env.origin result.2

/-- A promise that was awaited on one side is settled, and its outcome is sent back. -/
def complete (x : Exchange Args Value Obj Err) (side : Side) (run : Awaited)
    (rest : List Awaited) (outcome : Outcome Value Err) : Exchange Args Value Obj Err :=
  perform
    { x with
      awaited := update x.awaited side rest
      produced := update x.produced side.peer
        (x.produced side.peer ++ [(run.origin, outcome)]) }
    side run.origin (.post (replyTo (cfg side) run.id outcome))

/-- The steps.  A message and an awaited promise are picked by their position, any of them. -/
inductive Label (Args Value Err : Type*)
  | post (side : Side) (requestType : String) (args : Args)
  | deliver (side : Side) (i : ℕ)
  | complete (side : Side) (i : ℕ) (outcome : Outcome Value Err)

def step (x : Exchange Args Value Obj Err) :
    Label Args Value Err → Option (Exchange Args Value Obj Err)
  | .post side requestType args => some (x.post cfg side requestType args)
  | .deliver side i =>
      (x.inFlight side)[i]?.map fun env =>
        x.deliver cfg side env ((x.inFlight side).eraseIdx i)
  | .complete side i outcome =>
      (x.awaited side)[i]?.map fun run =>
        x.complete cfg side run ((x.awaited side).eraseIdx i) outcome

/-- The states that runs arrive at. -/
def Reachable (x : Exchange Args Value Obj Err) : Prop :=
  Relation.ReflTransGen (fun x y => ∃ label, step cfg x label = some y) init x

/-- Every request type has a command, which returns a promise. -/
def CommandsReturnPromises : Prop :=
  ∀ side requestType, ∃ command, (cfg side).commands requestType = some command ∧
    ∀ request, command request = .promise

end Steps

/-! ## Tokens -/

/-- The token of a request in flight. -/
def requestToken (env : Envelope Args Value Obj) : Option (String × ℕ) :=
  match env.message with
  | .request request => some (request.id, env.origin)
  | _ => none

/-- The token of a reply in flight. -/
def replyToken (env : Envelope Args Value Obj) : Option (String × ℕ) :=
  match env.message with
  | .response id _ => some (id, env.origin)
  | .requestError id _ => some (id, env.origin)
  | _ => none

@[simp] lemma requestToken_replyTo (sender : Config Args Value Obj Err) (id : String)
    (outcome : Outcome Value Err) (origin : ℕ) :
    requestToken ⟨replyTo sender id outcome, origin⟩ = none := by
  cases outcome <;> rfl

@[simp] lemma replyToken_replyTo (sender : Config Args Value Obj Err) (id : String)
    (outcome : Outcome Value Err) (origin : ℕ) :
    replyToken ⟨replyTo sender id outcome, origin⟩ = some (id, origin) := by
  cases outcome <;> rfl

/-- The token of an awaited promise. -/
def awaitedToken (run : Awaited) : String × ℕ := (run.id, run.origin)

/-- The tokens of the replies in flight to a side. -/
def replyTokens (x : Exchange Args Value Obj Err) (side : Side) : Multiset (String × ℕ) :=
  (x.inFlight side).filterMap replyToken

/-- The tokens of the requests of a side. -/
def tokens (x : Exchange Args Value Obj Err) (side : Side) : Multiset (String × ℕ) :=
  ((x.inFlight side.peer).filterMap requestToken : Multiset _) +
    (((x.awaited side.peer).map awaitedToken : Multiset _) + x.replyTokens side)

/-- What every step keeps, of one side. -/
structure SideInv (cfg : Side → Config Args Value Obj Err) (x : Exchange Args Value Obj Err)
    (side : Side) : Prop where
  requestId : (x.dispatcher side).requestId = (x.posted side).length
  promises : (x.dispatcher side).promises = (x.posted side).length
  ids : x.posted side =
    (List.range (x.posted side).length).map fun n => (cfg side).idPrefix ++ toString n
  table : x.tokens side = (x.dispatcher side).messages.pending
  keyed : ∀ token ∈ (x.dispatcher side).messages.pending,
    token.1 = (cfg side).idPrefix ++ toString token.2
  accounted : (x.answered side : Multiset ℕ) +
    (x.dispatcher side).messages.pending.map Prod.snd = Multiset.range (x.posted side).length
  settledOnce : (x.settled side).map Prod.fst = x.answered side
  producedOnce : ((x.produced side).map Prod.fst : Multiset ℕ) =
    x.answered side + (x.replyTokens side).map Prod.snd
  replies : ∀ env ∈ x.inFlight side, ∀ id outcome,
    env.message.asReply (cfg side) = some (id, outcome) →
      ∃ o, (env.origin, o) ∈ x.produced side ∧ outcome = o.received (cfg side.peer) (cfg side)
  settlements : ∀ e ∈ x.settled side,
    ∃ o, (e.1, o) ∈ x.produced side ∧ e.2 = o.received (cfg side.peer) (cfg side)

variable {cfg : Side → Config Args Value Obj Err} {x y : Exchange Args Value Obj Err}
  {side : Side}

/-- What leaves a side's dispatcher, its tokens and its replies alone keeps its invariant. -/
lemma SideInv.frame (h : x.SideInv cfg side) (hd : y.dispatcher side = x.dispatcher side)
    (hposted : y.posted side = x.posted side) (hsettled : y.settled side = x.settled side)
    (hanswered : y.answered side = x.answered side) (htokens : y.tokens side = x.tokens side)
    (honce : ((y.produced side).map Prod.fst : Multiset ℕ) + (x.replyTokens side).map Prod.snd =
      (x.produced side).map Prod.fst + (y.replyTokens side).map Prod.snd)
    (hproduced : ∀ e ∈ x.produced side, e ∈ y.produced side)
    (hreplies : ∀ env ∈ y.inFlight side, env ∈ x.inFlight side ∨ ∀ id outcome,
      env.message.asReply (cfg side) = some (id, outcome) → ∃ o,
        (env.origin, o) ∈ y.produced side ∧ outcome = o.received (cfg side.peer) (cfg side)) :
    y.SideInv cfg side where
  requestId := by rw [hd, hposted, h.requestId]
  promises := by rw [hd, hposted, h.promises]
  ids := by rw [hposted, ← h.ids]
  table := by rw [htokens, hd, h.table]
  keyed := by rw [hd]; exact h.keyed
  accounted := by rw [hanswered, hd, hposted, h.accounted]
  settledOnce := by rw [hsettled, hanswered, h.settledOnce]
  producedOnce := by
    rw [h.producedOnce, add_right_comm] at honce
    rw [hanswered]
    exact add_right_cancel honce
  replies env henv id outcome hreply := by
    rcases hreplies env henv with hold | hnew
    · obtain ⟨o, ho, heq⟩ := h.replies env hold id outcome hreply
      exact ⟨o, hproduced _ ho, heq⟩
    · exact hnew id outcome hreply
  settlements e he := by
    rw [hsettled] at he
    obtain ⟨o, ho, heq⟩ := h.settlements e he
    exact ⟨o, hproduced _ ho, heq⟩

section Pick

variable {α β : Type*} {l : List α} {i : ℕ} {a : α} {b : β} {f : α → Option β}

/-- An element that is taken out of a list takes its token with it. -/
lemma coe_filterMap_eraseIdx_some (h : l[i]? = some a) (hf : f a = some b) :
    (l.filterMap f : Multiset β) = b ::ₘ ((l.eraseIdx i).filterMap f : List β) := by
  obtain ⟨hi, rfl⟩ := List.getElem?_eq_some_iff.mp h
  have hperm := ((List.getElem_cons_eraseIdx_perm hi).filterMap f).symm
  rw [List.filterMap_cons_some hf] at hperm
  exact Multiset.coe_eq_coe.mpr hperm

/-- One without a token leaves the tokens as they are. -/
lemma coe_filterMap_eraseIdx_none (h : l[i]? = some a) (hf : f a = none) :
    (l.filterMap f : Multiset β) = ((l.eraseIdx i).filterMap f : List β) := by
  obtain ⟨hi, rfl⟩ := List.getElem?_eq_some_iff.mp h
  have hperm := ((List.getElem_cons_eraseIdx_perm hi).filterMap f).symm
  rw [List.filterMap_cons_none hf] at hperm
  exact Multiset.coe_eq_coe.mpr hperm

end Pick

/-! ## A request is posted -/

lemma post_eq (requestType : String) (args : Args) :
    x.post cfg side requestType args =
      let d := x.dispatcher side
      let id := nextId (cfg side).idPrefix d.requestId
      { x with
        dispatcher := update x.dispatcher side
          ⟨d.messages.set id.1 d.promises, id.2, d.promises + 1⟩
        posted := update x.posted side (x.posted side ++ [id.1])
        inFlight := update x.inFlight side.peer
          (x.inFlight side.peer ++ [⟨.request ⟨id.1, requestType, args⟩, d.promises⟩]) } := rfl

/-- Ids of requests that were posted are not given out again. -/
lemma SideInv.id_not_mem (h : x.SideInv cfg side) :
    (cfg side).idPrefix ++ toString (x.posted side).length ∉
      (x.dispatcher side).messages.ownKeys := by
  intro hmem
  obtain ⟨promise, hpending⟩ := MessageTable.mem_ownKeys.mp hmem
  have hpromise := id_injective (h.keyed _ hpending)
  have hlt : promise ∈ Multiset.range (x.posted side).length := by
    rw [← h.accounted]
    exact Multiset.mem_add.mpr (.inr (Multiset.mem_map_of_mem Prod.snd hpending))
  rw [Multiset.mem_range] at hlt
  omega

lemma SideInv.post_self (h : x.SideInv cfg side) (hlt : (x.posted side).length < maxSafeInteger)
    (requestType : String) (args : Args) :
    (x.post cfg side requestType args).SideInv cfg side := by
  have hid : nextId (cfg side).idPrefix (x.dispatcher side).requestId =
      ((cfg side).idPrefix ++ toString (x.posted side).length, (x.posted side).length + 1) := by
    rw [nextId, h.requestId, if_neg (not_le.mpr hlt)]
  have hpending := MessageTable.pending_set
    (nextId_ne_proto (cfg side).idPrefix (x.posted side).length) h.id_not_mem
    (x.posted side).length
  rw [post_eq]
  simp only [hid, h.promises]
  refine ⟨?_, ?_, ?_, ?_, ?_, ?_, h.settledOnce, ?_, ?_, h.settlements⟩
  · simp
  · simp
  · simp only [Function.update_self, List.length_append, List.length_singleton, List.range_succ,
      List.map_append, ← h.ids]
    rfl
  · -- the new token is that of the request in flight, and the new entry
    simp only [tokens, Function.update_self, hpending, ← h.table]
    simp [requestToken, replyTokens]
  · simp only [Function.update_self, hpending]
    intro token htoken
    rcases Multiset.mem_cons.mp htoken with rfl | hold
    · rfl
    · exact h.keyed token hold
  · simp only [Function.update_self, hpending, Multiset.map_cons, List.length_append,
      List.length_singleton, Multiset.range_succ, ← h.accounted]
    exact Multiset.add_cons ..
  · simpa [replyTokens] using h.producedOnce
  · simpa using h.replies

lemma SideInv.post_peer (h : x.SideInv cfg side.peer) (requestType : String) (args : Args) :
    (x.post cfg side requestType args).SideInv cfg side.peer := by
  rw [post_eq]
  refine h.frame ?_ ?_ rfl rfl ?_ ?_ (fun _ he => he) fun env henv => ?_
  · simp
  · simp
  · simp [tokens, replyTokens, replyToken, List.filterMap_cons]
  · simp [replyTokens, replyToken, List.filterMap_cons]
  · simp only [Function.update_self, List.mem_append, List.mem_singleton] at henv
    rcases henv with hold | rfl
    · exact .inl hold
    · exact .inr fun id outcome hreply => nomatch hreply

/-! ## A message is delivered -/

/-- A reply has a token, and it is not that of a request. -/
lemma tokens_of_asReply {env : Envelope Args Value Obj} {id : String}
    {outcome : Outcome Value Err} {receiver : Config Args Value Obj Err}
    (h : env.message.asReply receiver = some (id, outcome)) :
    replyToken env = some (id, env.origin) ∧ requestToken env = none := by
  obtain ⟨message, origin⟩ := env
  cases message with
  | response id' value =>
      obtain ⟨rfl, -⟩ := Prod.mk.inj (Option.some.inj h)
      exact ⟨rfl, rfl⟩
  | requestError id' error =>
      obtain ⟨rfl, -⟩ := Prod.mk.inj (Option.some.inj h)
      exact ⟨rfl, rfl⟩
  | request message => cases h
  | other json => cases h

section Deliver

variable {env : Envelope Args Value Obj} {i : ℕ} {id : String} {outcome : Outcome Value Err}

/-- A reply finds the entry of its own request. -/
lemma SideInv.mem_pending (h : x.SideInv cfg side) (henv : (x.inFlight side)[i]? = some env)
    (hreply : env.message.asReply (cfg side) = some (id, outcome)) :
    (id, env.origin) ∈ (x.dispatcher side).messages.pending := by
  rw [← h.table, tokens, Multiset.mem_add, Multiset.mem_add]
  refine .inr (.inr ?_)
  exact List.mem_filterMap.mpr
    ⟨env, List.mem_of_getElem? henv, (tokens_of_asReply hreply).1⟩

lemma SideInv.deliver_reply_eq (h : x.SideInv cfg side)
    (henv : (x.inFlight side)[i]? = some env)
    (hreply : env.message.asReply (cfg side) = some (id, outcome))
    (rest : List (Envelope Args Value Obj)) :
    x.deliver cfg side env rest =
      { x with
        dispatcher := update x.dispatcher side
          { x.dispatcher side with messages := (x.dispatcher side).messages.delete id }
        inFlight := update x.inFlight side rest
        answered := update x.answered side (x.answered side ++ [env.origin])
        settled := update x.settled side (x.settled side ++ [(env.origin, outcome)]) } := by
  have hmem := h.mem_pending henv hreply
  have hkey : id ≠ "__proto__" := by
    have hid : id = (cfg side).idPrefix ++ toString env.origin := h.keyed _ hmem
    rw [hid]
    exact nextId_ne_proto _ _
  have hreply' : (env.message.asReply (cfg side)).isSome := by rw [hreply]; rfl
  rw [deliver, handleMessage_reply hreply hkey hmem, if_pos hreply']
  rfl

/-- A delivered reply ends the token of its request together with its entry. -/
lemma SideInv.deliver_reply_self (h : x.SideInv cfg side)
    (henv : (x.inFlight side)[i]? = some env)
    (hreply : env.message.asReply (cfg side) = some (id, outcome)) :
    (x.deliver cfg side env ((x.inFlight side).eraseIdx i)).SideInv cfg side := by
  have hpending := MessageTable.pending_delete (h.mem_pending henv hreply)
  have hreplies : x.replyTokens side = (id, env.origin) ::ₘ
      ((x.inFlight side).eraseIdx i).filterMap replyToken :=
    coe_filterMap_eraseIdx_some henv (tokens_of_asReply hreply).1
  have htokens := h.table
  rw [tokens, hreplies, hpending, Multiset.add_cons, Multiset.add_cons,
    Multiset.cons_inj_right] at htokens
  have hrest : ∀ e ∈ (x.inFlight side).eraseIdx i, e ∈ x.inFlight side :=
    fun _ he => List.mem_of_mem_eraseIdx he
  rw [h.deliver_reply_eq henv hreply]
  refine ⟨?_, ?_, h.ids, ?_, ?_, ?_, ?_, ?_, ?_, ?_⟩
  · simpa using h.requestId
  · simpa using h.promises
  · simpa [tokens, replyTokens] using htokens
  · intro token htoken
    refine h.keyed token ?_
    rw [hpending]
    exact Multiset.mem_cons_of_mem (by simpa using htoken)
  · have haccounted := h.accounted
    rw [hpending, Multiset.map_cons] at haccounted
    simp only [Function.update_self, ← haccounted, ← Multiset.coe_add, Multiset.coe_singleton,
      add_assoc, Multiset.singleton_add]
  · simp [h.settledOnce]
  · have honce := h.producedOnce
    rw [hreplies, Multiset.map_cons] at honce
    simp only [replyTokens, Function.update_self, honce, ← Multiset.coe_add,
      Multiset.coe_singleton, add_assoc, Multiset.singleton_add]
  · simp only [Function.update_self]
    exact fun e he => h.replies e (hrest e he)
  · simp only [Function.update_self, List.mem_append, List.mem_singleton]
    rintro e (hold | rfl)
    · exact h.settlements e hold
    · exact h.replies env (List.mem_of_getElem? henv) id outcome hreply

lemma SideInv.deliver_reply_peer (hself : x.SideInv cfg side) (h : x.SideInv cfg side.peer)
    (henv : (x.inFlight side)[i]? = some env)
    (hreply : env.message.asReply (cfg side) = some (id, outcome)) :
    (x.deliver cfg side env ((x.inFlight side).eraseIdx i)).SideInv cfg side.peer := by
  rw [hself.deliver_reply_eq henv hreply]
  refine h.frame ?_ rfl ?_ ?_ ?_ ?_ (fun _ he => he) fun e he => .inl ?_
  · simp
  · simp
  · simp
  · have hpick := coe_filterMap_eraseIdx_none henv (tokens_of_asReply hreply).2
    simp [tokens, replyTokens, hpick]
  · simp [replyTokens]
  · simpa using he

/-- A delivered request is one that is awaited from then on. -/
lemma deliver_request_eq (hcommands : CommandsReturnPromises cfg) {request : Request Args}
    (hrequest : env.message = .request request) (rest : List (Envelope Args Value Obj)) :
    x.deliver cfg side env rest =
      { x with
        inFlight := update x.inFlight side rest
        awaited := update x.awaited side (x.awaited side ++ [⟨request.id, env.origin⟩]) } := by
  obtain ⟨command, hcommand, hpromise⟩ := hcommands side request.requestType
  rw [deliver, hrequest, handleMessage_request hcommand (hpromise request)]
  simp [perform, Message.asReply]

lemma SideInv.deliver_request_self (hcommands : CommandsReturnPromises cfg)
    (h : x.SideInv cfg side) (henv : (x.inFlight side)[i]? = some env) {request : Request Args}
    (hrequest : env.message = .request request) :
    (x.deliver cfg side env ((x.inFlight side).eraseIdx i)).SideInv cfg side := by
  rw [deliver_request_eq hcommands hrequest]
  have hnone : replyToken env = none := by rw [replyToken, hrequest]
  have hpick := coe_filterMap_eraseIdx_none henv hnone
  refine h.frame rfl rfl rfl rfl ?_ ?_ (fun _ he => he) fun e he => .inl ?_
  · simp only [tokens, replyTokens, hpick]
    simp
  · simp only [replyTokens, hpick, Function.update_self]
  · simp only [Function.update_self] at he
    exact List.mem_of_mem_eraseIdx he

/-- The token of a delivered request stays with its request. -/
lemma SideInv.deliver_request_peer (hcommands : CommandsReturnPromises cfg)
    (h : x.SideInv cfg side.peer) (henv : (x.inFlight side)[i]? = some env)
    {request : Request Args} (hrequest : env.message = .request request) :
    (x.deliver cfg side env ((x.inFlight side).eraseIdx i)).SideInv cfg side.peer := by
  rw [deliver_request_eq hcommands hrequest]
  refine h.frame rfl rfl rfl rfl ?_ ?_ (fun _ he => he) fun e he => .inl ?_
  · have hsome : requestToken env = some (request.id, env.origin) := by
      rw [requestToken, hrequest]
    have hpick := coe_filterMap_eraseIdx_some henv hsome
    simp only [tokens, replyTokens, Side.peer_peer, hpick, Function.update_self, List.map_append,
      ← Multiset.coe_add, Multiset.cons_add]
    rw [Function.update_of_ne side.peer_ne, ← Multiset.singleton_add]
    have htoken : (([⟨request.id, env.origin⟩] : List Awaited).map awaitedToken : Multiset _) =
        {(request.id, env.origin)} := rfl
    rw [htoken]
    abel
  · simp [replyTokens]
  · simpa using he

/-- Anything else that is delivered makes the dispatcher throw. -/
lemma deliver_other_eq {json : String} (hother : env.message = .other json)
    (rest : List (Envelope Args Value Obj)) :
    x.deliver cfg side env rest = { x with inFlight := update x.inFlight side rest } := by
  rw [deliver, hother]
  simp [handleMessage, perform, Message.asReply]

lemma SideInv.deliver_other {s : Side} (h : x.SideInv cfg s)
    (henv : (x.inFlight side)[i]? = some env) {json : String}
    (hother : env.message = .other json) :
    (x.deliver cfg side env ((x.inFlight side).eraseIdx i)).SideInv cfg s := by
  have hnorequest : requestToken env = none := by rw [requestToken, hother]
  have hnoreply : replyToken env = none := by rw [replyToken, hother]
  have hrequest := coe_filterMap_eraseIdx_none henv hnorequest
  have hreply := coe_filterMap_eraseIdx_none henv hnoreply
  rw [deliver_other_eq hother]
  rcases Side.eq_or_eq_peer s side with rfl | rfl
  · refine h.frame rfl rfl rfl rfl ?_ ?_ (fun _ he => he) fun e he => .inl ?_
    · simp only [tokens, replyTokens, hreply]
      simp
    · simp only [replyTokens, hreply, Function.update_self]
    · simp only [Function.update_self] at he
      exact List.mem_of_mem_eraseIdx he
  · refine h.frame rfl rfl rfl rfl ?_ ?_ (fun _ he => he) fun e he => .inl ?_
    · simp only [tokens, replyTokens, Side.peer_peer, hrequest]
      simp
    · simp [replyTokens]
    · simpa using he

end Deliver

/-! ## An awaited promise is settled -/

section Complete

variable {run : Awaited} {i : ℕ}

lemma SideInv.complete_self (h : x.SideInv cfg side) (rest : List Awaited)
    (outcome : Outcome Value Err) : (x.complete cfg side run rest outcome).SideInv cfg side := by
  refine h.frame rfl rfl rfl rfl ?_ ?_ (fun e he => ?_) fun e he => .inl ?_
  · simp [complete, perform, tokens, replyTokens]
  · simp [complete, perform, replyTokens]
  · simpa [complete, perform] using he
  · simpa [complete, perform] using he

/-- The outcome of an awaited promise carries the token on. -/
lemma SideInv.complete_peer (h : x.SideInv cfg side.peer) (hrun : (x.awaited side)[i]? = some run)
    (outcome : Outcome Value Err) :
    (x.complete cfg side run ((x.awaited side).eraseIdx i) outcome).SideInv cfg side.peer := by
  have hreply := asReply_replyTo (cfg side) (cfg side.peer) run.id outcome
  refine h.frame rfl rfl rfl rfl ?_ ?_ (fun e he => ?_) fun e he => ?_
  · have hpick := coe_filterMap_eraseIdx_some (f := fun r => some (awaitedToken r)) hrun rfl
    simp only [List.filterMap_eq_map'] at hpick
    simp only [complete, perform, tokens, replyTokens, Side.peer_peer, Function.update_self, hpick,
      Function.update_of_ne side.ne_peer, List.filterMap_append, ← Multiset.coe_add]
    rw [← Multiset.singleton_add]
    have htoken : (([⟨replyTo (cfg side) run.id outcome, run.origin⟩] :
        List (Envelope Args Value Obj)).filterMap replyToken : Multiset _) =
        {awaitedToken run} := by
      simp [awaitedToken]
    rw [htoken]
    abel
  · -- the outcome produced is the one in flight
    have hperm := (List.perm_append_singleton run.origin
      (((x.inFlight side.peer).filterMap replyToken).map Prod.snd)).symm.append_left
        ((x.produced side.peer).map Prod.fst)
    simpa [complete, perform, replyTokens] using hperm
  · simp only [complete, perform, Function.update_self, List.mem_append]
    exact .inl he
  · simp only [complete, perform, Function.update_self, List.mem_append, List.mem_singleton] at he
    rcases he with hold | rfl
    · exact .inl hold
    · refine .inr fun id o ho => ⟨outcome, ?_, ?_⟩
      · simp [complete, perform]
      · rw [hreply] at ho
        obtain ⟨-, rfl⟩ := Prod.mk.inj (Option.some.inj ho)
        rw [Side.peer_peer]

end Complete

/-! ## Runs -/

/-- The invariant of both sides, while neither has used up its ids. -/
def Inv (cfg : Side → Config Args Value Obj Err) (x : Exchange Args Value Obj Err) : Prop :=
  (∀ side, (x.posted side).length ≤ maxSafeInteger) → ∀ side, x.SideInv cfg side

lemma inv_init : (init : Exchange Args Value Obj Err).Inv cfg := by
  intro _ side
  refine ⟨rfl, rfl, rfl, rfl, ?_, rfl, rfl, rfl, ?_, ?_⟩
  · intro token htoken
    exact absurd htoken (Multiset.notMem_zero _)
  · intro env henv
    cases henv
  · intro e he
    cases he

lemma posted_perform (origin : ℕ) (effect : Effect Args Value Obj Err) :
    (x.perform side origin effect).posted = x.posted := by
  cases effect <;> rfl

/-- Requests stay posted. -/
lemma posted_length_le {label : Label Args Value Err} (h : x.step cfg label = some y) (s : Side) :
    (x.posted s).length ≤ (y.posted s).length := by
  cases label with
  | post side requestType args =>
      obtain rfl := Option.some.inj h
      rw [post_eq]
      by_cases hs : s = side
      · subst hs
        simp
      · simp [hs]
  | deliver side i =>
      obtain ⟨env, -, rfl⟩ := Option.map_eq_some_iff.mp h
      rw [deliver, posted_perform]
  | complete side i outcome =>
      obtain ⟨run, -, rfl⟩ := Option.map_eq_some_iff.mp h
      rw [complete, posted_perform]

lemma SideInv.post (hx : ∀ s, x.SideInv cfg s) (hlt : (x.posted side).length < maxSafeInteger)
    (requestType : String) (args : Args) (s : Side) :
    (x.post cfg side requestType args).SideInv cfg s := by
  rcases Side.eq_or_eq_peer s side with rfl | rfl
  · exact (hx s).post_self hlt requestType args
  · exact (hx _).post_peer requestType args

lemma SideInv.deliver (hcommands : CommandsReturnPromises cfg) (hx : ∀ s, x.SideInv cfg s)
    {env : Envelope Args Value Obj} {i : ℕ} (henv : (x.inFlight side)[i]? = some env) (s : Side) :
    (x.deliver cfg side env ((x.inFlight side).eraseIdx i)).SideInv cfg s := by
  cases hmessage : env.message with
  | other json => exact (hx s).deliver_other henv hmessage
  | request request =>
      rcases Side.eq_or_eq_peer s side with rfl | rfl
      · exact (hx s).deliver_request_self hcommands henv hmessage
      · exact (hx _).deliver_request_peer hcommands henv hmessage
  | response id value =>
      have hreply : env.message.asReply (cfg side) = some (id, .resolved value) := by
        rw [hmessage, Message.asReply]
      rcases Side.eq_or_eq_peer s side with rfl | rfl
      · exact (hx s).deliver_reply_self henv hreply
      · exact (hx side).deliver_reply_peer (hx _) henv hreply
  | requestError id error =>
      have hreply : env.message.asReply (cfg side) =
          some (id, .rejected ((cfg side).objToError error)) := by
        rw [hmessage, Message.asReply]
      rcases Side.eq_or_eq_peer s side with rfl | rfl
      · exact (hx s).deliver_reply_self henv hreply
      · exact (hx side).deliver_reply_peer (hx _) henv hreply

lemma SideInv.complete (hx : ∀ s, x.SideInv cfg s) {run : Awaited} {i : ℕ}
    (hrun : (x.awaited side)[i]? = some run) (outcome : Outcome Value Err) (s : Side) :
    (x.complete cfg side run ((x.awaited side).eraseIdx i) outcome).SideInv cfg s := by
  rcases Side.eq_or_eq_peer s side with rfl | rfl
  · exact (hx s).complete_self _ outcome
  · exact (hx _).complete_peer hrun outcome

/-- The step lemma. -/
lemma Inv.step (hcommands : CommandsReturnPromises cfg) (hx : x.Inv cfg)
    {label : Label Args Value Err} (h : x.step cfg label = some y) : y.Inv cfg := by
  intro hcount
  have hold := hx fun s => (posted_length_le h s).trans (hcount s)
  cases label with
  | post side requestType args =>
      obtain rfl := Option.some.inj h
      refine SideInv.post hold ?_ requestType args
      have hnext := hcount side
      rw [post_eq] at hnext
      simpa using hnext
  | deliver side i =>
      obtain ⟨env, henv, rfl⟩ := Option.map_eq_some_iff.mp h
      exact SideInv.deliver hcommands hold henv
  | complete side i outcome =>
      obtain ⟨run, hrun, rfl⟩ := Option.map_eq_some_iff.mp h
      exact SideInv.complete hold hrun outcome

/-- The run lemma. -/
lemma Reachable.inv (hcommands : CommandsReturnPromises cfg) (h : x.Reachable cfg) : x.Inv cfg :=
  invariant_of_run (fun _ _ hx ⟨_, hstep⟩ => hx.step hcommands hstep) h inv_init

/-! ## What the invariant says -/

lemma SideInv.answered_nodup (h : x.SideInv cfg side) : (x.answered side).Nodup := by
  have hle : (x.answered side : Multiset ℕ) ≤ Multiset.range (x.posted side).length := by
    rw [← h.accounted]
    exact Multiset.le_add_right ..
  exact Multiset.coe_nodup.mp (Multiset.nodup_of_le hle (Multiset.nodup_range _))

/-- A command produces one outcome for a request. -/
lemma SideInv.produced_nodup (h : x.SideInv cfg side) :
    ((x.produced side).map Prod.fst).Nodup := by
  have htokens : x.replyTokens side ≤ (x.dispatcher side).messages.pending := by
    rw [← h.table, tokens, ← add_assoc]
    exact Multiset.le_add_left ..
  have hle : ((x.produced side).map Prod.fst : Multiset ℕ) ≤
      Multiset.range (x.posted side).length := by
    rw [h.producedOnce, ← h.accounted]
    exact add_le_add_right (Multiset.map_le_map htokens) _
  exact Multiset.coe_nodup.mp (Multiset.nodup_of_le hle (Multiset.nodup_range _))

/-- The own keys of the table are the ids of the requests without an answer. -/
lemma SideInv.mem_ownKeys (h : x.SideInv cfg side) (id : String) :
    id ∈ (x.dispatcher side).messages.ownKeys ↔
      ∃ promise, (x.posted side)[promise]? = some id ∧ promise ∉ x.answered side := by
  have hposted : ∀ promise, promise < (x.posted side).length →
      (x.posted side)[promise]? = some ((cfg side).idPrefix ++ toString promise) := by
    intro promise hlt
    rw [h.ids, List.getElem?_map, List.getElem?_range hlt]
    rfl
  have hnodup := Multiset.nodup_range (x.posted side).length
  rw [← h.accounted, Multiset.nodup_add] at hnodup
  rw [MessageTable.mem_ownKeys]
  constructor
  · rintro ⟨promise, hpending⟩
    have hmem : promise ∈ (x.dispatcher side).messages.pending.map Prod.snd :=
      Multiset.mem_map_of_mem Prod.snd hpending
    have hlt : promise ∈ Multiset.range (x.posted side).length := by
      rw [← h.accounted]
      exact Multiset.mem_add.mpr (.inr hmem)
    refine ⟨promise, ?_, fun hanswered => ?_⟩
    · rw [hposted promise (Multiset.mem_range.mp hlt), ← h.keyed _ hpending]
    · exact Multiset.disjoint_left.mp hnodup.2.2 hanswered hmem
  · rintro ⟨promise, hid, hanswered⟩
    obtain ⟨hlt, -⟩ := List.getElem?_eq_some_iff.mp hid
    have hmem := Multiset.mem_range.mpr hlt
    rw [← h.accounted, Multiset.mem_add, Multiset.mem_coe, or_iff_right hanswered,
      Multiset.mem_map] at hmem
    obtain ⟨⟨id', _⟩, hpending, rfl⟩ := hmem
    rw [hposted _ hlt, ← h.keyed _ hpending] at hid
    obtain rfl : id' = id := Option.some.inj hid
    exact ⟨_, hpending⟩

/-- Where no token is anywhere, no entry is left. -/
lemma SideInv.ownKeys_eq_nil (h : x.SideInv cfg side)
    (hquiet : ∀ s, x.inFlight s = [] ∧ x.awaited s = []) :
    (x.dispatcher side).messages.ownKeys = [] := by
  refine List.eq_nil_iff_forall_not_mem.mpr fun id hid => ?_
  obtain ⟨promise, hpending⟩ := MessageTable.mem_ownKeys.mp hid
  rw [← h.table, tokens, replyTokens, (hquiet side).1, (hquiet side.peer).1,
    (hquiet side.peer).2] at hpending
  exact Multiset.notMem_zero _ hpending

/-- **No request is lost, and no reply goes astray.**  In every state that a run arrives at, while
neither side has used up its ids: each promise was settled at most once, with the one outcome that
the other side's command produced for that very request; the own keys of `_messages` are the ids
of the requests that were posted and not answered; and they are none when nothing is in flight and
nothing awaited. -/
theorem exchange_settles (hcommands : CommandsReturnPromises cfg) (h : x.Reachable cfg)
    (hcount : ∀ s, (x.posted s).length < maxSafeInteger) (side : Side) :
    ((x.settled side).map Prod.fst).Nodup ∧
    ((x.produced side).map Prod.fst).Nodup ∧
    (∀ promise outcome, (promise, outcome) ∈ x.settled side → ∃ o,
      (promise, o) ∈ x.produced side ∧ outcome = o.received (cfg side.peer) (cfg side)) ∧
    (∀ id, id ∈ (x.dispatcher side).messages.ownKeys ↔
      ∃ promise, (x.posted side)[promise]? = some id ∧ promise ∉ x.answered side) ∧
    ((∀ s, x.inFlight s = [] ∧ x.awaited s = []) →
      (x.dispatcher side).messages.ownKeys = []) := by
  have hinv := h.inv hcommands (fun s => (hcount s).le) side
  refine ⟨?_, hinv.produced_nodup, fun promise outcome he => hinv.settlements _ he,
    hinv.mem_ownKeys, hinv.ownKeys_eq_nil⟩
  rw [hinv.settledOnce]
  exact hinv.answered_nodup

/-- Two sides with one id generator, whose commands all return promises. -/
def echoes (_ : Side) : Config Unit ℕ String String where
  idPrefix := ""
  commands _ := some fun _ => .promise
  objToError := id
  isWorker := false
  requestErrorObj := id
  newError := id

/-- Both sides post a request with the id `0`, one command fails, and the replies cross. -/
def crossing : List (Label Unit ℕ String) :=
  [.post .left "a" (), .post .right "b" (), .deliver .right 0, .deliver .left 0,
    .complete .right 0 (.resolved 7), .complete .left 0 (.rejected "no"), .deliver .right 0,
    .deliver .left 0]

theorem exchange_settles_crossing : ∃ x : Exchange Unit ℕ String String,
    crossing.foldlM (step echoes) init = some x ∧ x.settled .left = [(0, .resolved 7)] ∧
      x.settled .right = [(0, .rejected "no")] ∧
      (x.dispatcher .left).messages.ownKeys = [] := by
  refine ⟨_, rfl, rfl, rfl, ?_⟩
  have hcommands : CommandsReturnPromises echoes := fun _ _ => ⟨_, rfl, fun _ => rfl⟩
  refine (exchange_settles hcommands (run_of_foldlM crossing rfl) ?_ .left).2.2.2.2 ?_
  · intro s
    cases s <;> decide
  · intro s
    cases s <;> exact ⟨rfl, rfl⟩

end Exchange

end MessageDispatcher

end TorOnion
