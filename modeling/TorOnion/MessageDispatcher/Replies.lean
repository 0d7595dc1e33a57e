import TorOnion.MessageDispatcher.Dispatcher

/-!
# Replies that nobody waits for

One dispatcher on its own, over any run: requests are posted, over a transport that may throw, and
any messages arrive in any order.

Beside the dispatcher a run keeps the requests that were sent and have no reply yet, and those
whose sending failed.  The table holds entries of both kinds: `postRequest` stores its callbacks
before it sends, and nothing takes them away when `postMessage` throws (`Recorded.Inv`).  So a
reply without a waiting request is harmless unless its id is the one of a failed request, or a
name that the table inherits (`harmless_iff`), and the table is what it should be as long as no
sending fails (`exact_iff`).

A reply ends the wait of every request with its id.  Two requests have the same id only when the
counter has come round between them.
-/

namespace TorOnion

namespace MessageDispatcher

/-! ## Reading and writing the table -/

namespace MessageTable

variable {t : MessageTable} {key key' : String} {promise promise' : ℕ}

lemma mem_pending_set (hkey : key ≠ "__proto__") :
    (key', promise') ∈ (t.set key promise).pending ↔
      key' = key ∧ promise' = promise ∨ key' ≠ key ∧ (key', promise') ∈ t.pending := by
  rw [set, if_neg hkey, mem_pending, mem_pending]
  by_cases h : key' = key
  · subst h
    simp [AList.lookup_insert, eq_comm]
  · simp [AList.lookup_insert_ne h, h]

lemma mem_pending_delete :
    (key', promise') ∈ (t.delete key).pending ↔
      key' ≠ key ∧ (key', promise') ∈ t.pending := by
  rw [delete, mem_pending, mem_pending]
  by_cases h : key' = key
  · subst h
    simp [AList.lookup_erase]
  · simp [AList.lookup_erase_ne h, h]

@[simp] lemma proto_set (hkey : key ≠ "__proto__") : (t.set key promise).proto = t.proto := by
  rw [set, if_neg hkey]

/-- While no callbacks are assigned to `__proto__`, a read sees the own keys, and the names of
`Object.prototype` behind them. -/
lemma get_of_not_mem (hproto : t.proto = none) (hkey : key ∉ t.ownKeys) :
    t.get key = if key ∈ objectPrototypeNames then .inherited else .undefined := by
  have hlookup : t.own.lookup key = none := AList.lookup_eq_none.mpr hkey
  by_cases h : key = "__proto__"
  · subst h
    simp [get, hproto, objectPrototypeNames]
  · simp [get, h, hlookup, hproto]

end MessageTable

/-! ## Runs -/

variable {Args Value Obj Err : Type*}

/-- A call of the dispatcher.  The first says what `transport.postMessage` throws, if it does. -/
inductive Call (Args Value Obj Err : Type*)
  | postRequest (requestType : String) (args : Args) (thrown : Option Err)
  | handleMessage (message : Message Args Value Obj)

/-- Whether the sending of a request fails in a call. -/
def Call.SendFails : Call Args Value Obj Err → Prop
  | postRequest _ _ thrown => thrown.isSome
  | handleMessage _ => False

/-- The id that a reply carries. -/
def Message.replyId : Message Args Value Obj → Option String
  | response id _ => some id
  | requestError id _ => some id
  | request _ => none
  | other _ => none

/-- A dispatcher with the requests that were sent and have no reply, and those whose sending
failed and to whose id no reply has come since: their ids and promises. -/
structure Recorded where
  dispatcher : MessageDispatcher
  waiting : List (String × ℕ)
  failed : List (String × ℕ)

namespace Recorded

/-- A dispatcher before its first call. -/
def init : Recorded := ⟨.new, [], []⟩

/-- What is left of a list of requests when a message has arrived. -/
def unanswered (message : Message Args Value Obj) (requests : List (String × ℕ)) :
    List (String × ℕ) :=
  requests.filter fun request => some request.1 ≠ message.replyId

variable (cfg : Config Args Value Obj Err)

/-- One call. -/
def after (s : Recorded) : Call Args Value Obj Err → Recorded
  | .postRequest requestType args thrown =>
      let request := ((nextId cfg.idPrefix s.dispatcher.requestId).1, s.dispatcher.promises)
      { dispatcher := (postRequest cfg s.dispatcher requestType args thrown).1
        waiting := if thrown.isSome then s.waiting else s.waiting ++ [request]
        failed := if thrown.isSome then s.failed ++ [request] else s.failed }
  | .handleMessage message =>
      { dispatcher := (handleMessage cfg s.dispatcher message).1
        waiting := unanswered message s.waiting
        failed := unanswered message s.failed }

/-- The calls one after the other. -/
def run (calls : List (Call Args Value Obj Err)) : Recorded := calls.foldl (after cfg) init

end Recorded

/-! ## The invariant -/

/-- What every call keeps: the table has an entry for each id of a waiting or failed request, and
each entry is that of such a request. -/
structure Recorded.Inv (s : Recorded) : Prop where
  proto : s.dispatcher.messages.proto = none
  entries : ∀ entry ∈ s.dispatcher.messages.pending, entry ∈ s.waiting ∨ entry ∈ s.failed
  keys : ∀ request, request ∈ s.waiting ∨ request ∈ s.failed →
    request.1 ∈ s.dispatcher.messages.ownKeys
  ids : ∀ id ∈ s.dispatcher.messages.ownKeys, id ∉ objectPrototypeNames
  promises : ∀ request, request ∈ s.waiting ∨ request ∈ s.failed →
    request.2 < s.dispatcher.promises

/-- An id ends in a digit, and no name of `Object.prototype` does. -/
lemma id_not_mem_objectPrototypeNames (idPrefix : String) (n : ℕ) :
    idPrefix ++ toString n ∉ objectPrototypeNames := by
  intro hmem
  have hnames : ∀ name ∈ objectPrototypeNames, name.toList.getLast?.any Char.isDigit = false := by
    decide
  have hid := getLast?_id idPrefix n
  rw [hnames _ hmem] at hid
  cases hid

lemma nextId_fst_not_mem (idPrefix : String) (requestId : ℕ) :
    (nextId idPrefix requestId).1 ∉ objectPrototypeNames :=
  id_not_mem_objectPrototypeNames _ _

lemma nextId_fst_ne_proto (idPrefix : String) (requestId : ℕ) :
    (nextId idPrefix requestId).1 ≠ "__proto__" :=
  nextId_ne_proto _ _

namespace Recorded

variable (cfg : Config Args Value Obj Err) {s : Recorded} {message : Message Args Value Obj}
  {id : String}

lemma mem_unanswered {requests : List (String × ℕ)} {request : String × ℕ} :
    request ∈ unanswered message requests ↔
      request ∈ requests ∧ some request.1 ≠ message.replyId := by
  rw [unanswered, List.mem_filter, decide_eq_true_eq]

lemma inv_init : init.Inv where
  proto := rfl
  entries entry h := by
    obtain ⟨id, promise⟩ := entry
    cases MessageTable.mem_pending.mp h
  keys request h := by simp [init] at h
  ids id h := by
    obtain ⟨promise, hpending⟩ := MessageTable.mem_ownKeys.mp h
    cases MessageTable.mem_pending.mp hpending
  promises request h := by simp [init] at h

/-! ## A request is posted -/

/-- A request adds its entry, whether it is sent or not. -/
lemma dispatcher_postRequest (requestType : String) (args : Args) (thrown : Option Err) :
    (postRequest cfg s.dispatcher requestType args thrown).1 =
      { messages := s.dispatcher.messages.set (nextId cfg.idPrefix s.dispatcher.requestId).1
          s.dispatcher.promises
        requestId := (nextId cfg.idPrefix s.dispatcher.requestId).2
        promises := s.dispatcher.promises + 1 } := by
  cases thrown <;> rfl

/-- The requests after a request was posted, of both kinds together. -/
lemma mem_after_postRequest (requestType : String) (args : Args) (thrown : Option Err)
    (request : String × ℕ) :
    let t := s.after cfg (.postRequest requestType args thrown)
    (request ∈ t.waiting ∨ request ∈ t.failed) ↔
      (request ∈ s.waiting ∨ request ∈ s.failed) ∨
        request = ((nextId cfg.idPrefix s.dispatcher.requestId).1, s.dispatcher.promises) := by
  cases thrown with
  | none => simp [after, or_right_comm]
  | some error => simp [after, or_assoc]

lemma Inv.postRequest (h : s.Inv) (requestType : String) (args : Args) (thrown : Option Err) :
    (s.after cfg (.postRequest requestType args thrown)).Inv := by
  have hid := nextId_fst_not_mem cfg.idPrefix s.dispatcher.requestId
  have hkey := nextId_fst_ne_proto cfg.idPrefix s.dispatcher.requestId
  have hmem := @mem_after_postRequest _ _ _ _ cfg s requestType args thrown
  have hd : (s.after cfg (.postRequest requestType args thrown)).dispatcher = _ :=
    dispatcher_postRequest cfg requestType args thrown
  refine ⟨?_, ?_, ?_, ?_, ?_⟩
  · rw [hd]
    simp [hkey, h.proto]
  · rintro ⟨id, promise⟩ hentry
    rw [hd] at hentry
    refine (hmem _).mpr ?_
    rcases (MessageTable.mem_pending_set hkey).mp hentry with ⟨rfl, rfl⟩ | ⟨-, hold⟩
    · exact .inr rfl
    · exact .inl (h.entries _ hold)
  · rintro ⟨id, promise⟩ hrequest
    rw [hd]
    refine MessageTable.mem_ownKeys.mpr ?_
    simp only [MessageTable.mem_pending_set hkey]
    by_cases hsame : id = (nextId cfg.idPrefix s.dispatcher.requestId).1
    · exact ⟨_, .inl ⟨hsame, rfl⟩⟩
    · rcases (hmem _).mp hrequest with hold | hnew
      · obtain ⟨promise', hpending⟩ := MessageTable.mem_ownKeys.mp (h.keys _ hold)
        exact ⟨promise', .inr ⟨hsame, hpending⟩⟩
      · exact absurd (congrArg Prod.fst hnew) hsame
  · intro id hown
    rw [hd] at hown
    obtain ⟨promise, hpending⟩ := MessageTable.mem_ownKeys.mp hown
    rcases (MessageTable.mem_pending_set hkey).mp hpending with ⟨rfl, -⟩ | ⟨-, hold⟩
    · exact hid
    · exact h.ids id (MessageTable.mem_ownKeys.mpr ⟨promise, hold⟩)
  · intro request hrequest
    rw [hd]
    rcases (hmem _).mp hrequest with hold | rfl
    · exact (h.promises _ hold).trans (Nat.lt_succ_self _)
    · exact Nat.lt_succ_self _

/-! ## A message arrives -/

lemma exists_asReply (hid : message.replyId = some id) :
    ∃ outcome, message.asReply cfg = some (id, outcome) := by
  cases message with
  | response id' value => exact ⟨_, by rw [Message.asReply, Option.some.inj hid]⟩
  | requestError id' error => exact ⟨_, by rw [Message.asReply, Option.some.inj hid]⟩
  | request request => cases hid
  | other json => cases hid

/-- A reply to an entry settles the promise of the entry and deletes it. -/
lemma Inv.handleMessage_of_mem (h : s.Inv) (hid : message.replyId = some id) {promise : ℕ}
    (hpending : (id, promise) ∈ s.dispatcher.messages.pending) :
    ∃ outcome, handleMessage cfg s.dispatcher message =
      ({ s.dispatcher with messages := s.dispatcher.messages.delete id },
        .settle promise outcome) := by
  obtain ⟨outcome, hreply⟩ := exists_asReply cfg hid
  have hproto : id ≠ "__proto__" := by
    rintro rfl
    exact h.ids _ (MessageTable.mem_ownKeys.mpr ⟨promise, hpending⟩) (by decide)
  exact ⟨outcome, handleMessage_reply hreply hproto hpending⟩

/-- Without an entry the dispatcher stays as it is, and warns, or throws where the table
inherits the id. -/
lemma Inv.handleMessage_of_not_mem (h : s.Inv) (hid : message.replyId = some id)
    (hown : id ∉ s.dispatcher.messages.ownKeys) :
    ∃ text, handleMessage cfg s.dispatcher message =
      (s.dispatcher, if id ∈ objectPrototypeNames then .throw text else .warn text) := by
  have hget := MessageTable.get_of_not_mem h.proto hown
  cases message with
  | response id' value =>
      obtain rfl := Option.some.inj hid
      by_cases hname : id' ∈ objectPrototypeNames
      · exact ⟨_, by simp only [handleMessage, hget, if_pos hname]; rfl⟩
      · exact ⟨_, by simp only [handleMessage, hget, if_neg hname]; rfl⟩
  | requestError id' error =>
      obtain rfl := Option.some.inj hid
      by_cases hname : id' ∈ objectPrototypeNames
      · exact ⟨_, by simp only [handleMessage, hget, if_pos hname]; rfl⟩
      · exact ⟨_, by simp only [handleMessage, hget, if_neg hname]; rfl⟩
  | request request => cases hid
  | other json => cases hid

/-- A message that is no reply leaves the dispatcher as it is. -/
lemma handleMessage_of_no_reply (hid : message.replyId = none) (d : MessageDispatcher) :
    (handleMessage cfg d message).1 = d := by
  cases message with
  | response id' value => cases hid
  | requestError id' error => cases hid
  | request request =>
      rw [handleMessage]
      split
      · split <;> rfl
      · split <;> rfl
  | other json => rfl

/-- What a message does to the dispatcher: the entry of the id it carries, if there is one, is
deleted, and nothing else. -/
lemma Inv.mem_pending_handleMessage (h : s.Inv) (entry : String × ℕ) :
    entry ∈ (handleMessage cfg s.dispatcher message).1.messages.pending ↔
      entry ∈ s.dispatcher.messages.pending ∧ some entry.1 ≠ message.replyId := by
  cases hid : message.replyId with
  | none => simp [handleMessage_of_no_reply cfg hid]
  | some id =>
      by_cases hown : id ∈ s.dispatcher.messages.ownKeys
      · obtain ⟨promise, hpending⟩ := MessageTable.mem_ownKeys.mp hown
        obtain ⟨outcome, hhandle⟩ := h.handleMessage_of_mem cfg hid hpending
        obtain ⟨key, promise'⟩ := entry
        rw [hhandle, MessageTable.mem_pending_delete, and_comm]
        simp
      · obtain ⟨text, hhandle⟩ := h.handleMessage_of_not_mem cfg hid hown
        rw [hhandle]
        refine (and_iff_left_of_imp fun hentry hsame => hown ?_).symm
        rw [← Option.some.inj hsame]
        exact MessageTable.mem_ownKeys.mpr ⟨entry.2, hentry⟩

/-- The rest of the dispatcher stays as it is. -/
lemma handleMessage_frame (d : MessageDispatcher) :
    (handleMessage cfg d message).1.messages.proto = d.messages.proto ∧
      (handleMessage cfg d message).1.promises = d.promises := by
  cases hid : message.replyId with
  | none => simp [handleMessage_of_no_reply cfg hid]
  | some id =>
      cases message with
      | response id' value =>
          rw [handleMessage]
          split <;> exact ⟨rfl, rfl⟩
      | requestError id' error =>
          rw [handleMessage]
          split <;> exact ⟨rfl, rfl⟩
      | request request => cases hid
      | other json => cases hid

lemma Inv.handleMessage (h : s.Inv) : (s.after cfg (.handleMessage message)).Inv := by
  obtain ⟨hproto, hpromises⟩ := @handleMessage_frame _ _ _ _ cfg message s.dispatcher
  have hmem : ∀ request, request ∈ unanswered message s.waiting ∨
      request ∈ unanswered message s.failed ↔
        (request ∈ s.waiting ∨ request ∈ s.failed) ∧ some request.1 ≠ message.replyId := by
    intro request
    rw [mem_unanswered, mem_unanswered, or_and_right]
  refine ⟨?_, fun entry hentry => ?_, fun request hrequest => ?_, fun id hown => ?_,
    fun request hrequest => ?_⟩
  · exact hproto.trans h.proto
  · obtain ⟨hold, hne⟩ := (h.mem_pending_handleMessage cfg entry).mp hentry
    exact (hmem entry).mpr ⟨h.entries entry hold, hne⟩
  · obtain ⟨hold, hne⟩ := (hmem request).mp hrequest
    obtain ⟨promise, hpending⟩ := MessageTable.mem_ownKeys.mp (h.keys request hold)
    exact MessageTable.mem_ownKeys.mpr
      ⟨promise, (h.mem_pending_handleMessage cfg _).mpr ⟨hpending, hne⟩⟩
  · obtain ⟨promise, hpending⟩ := MessageTable.mem_ownKeys.mp hown
    have hold := ((h.mem_pending_handleMessage cfg _).mp hpending).1
    exact h.ids id (MessageTable.mem_ownKeys.mpr ⟨promise, hold⟩)
  · exact (h.promises request ((hmem request).mp hrequest).1).trans_eq hpromises.symm

/-! ## Runs keep it -/

lemma Inv.after (h : s.Inv) (call : Call Args Value Obj Err) : (s.after cfg call).Inv := by
  cases call with
  | postRequest requestType args thrown => exact h.postRequest cfg requestType args thrown
  | handleMessage message => exact h.handleMessage cfg

lemma run_concat (calls : List (Call Args Value Obj Err)) (call : Call Args Value Obj Err) :
    run cfg (calls ++ [call]) = (run cfg calls).after cfg call := by
  rw [run, List.foldl_append]
  rfl

lemma inv_run (calls : List (Call Args Value Obj Err)) : (run cfg calls).Inv := by
  induction calls using List.reverseRecOn with
  | nil => exact inv_init
  | append_singleton calls call ih =>
      rw [run_concat]
      exact ih.after cfg call

/-! ## A reply that nobody waits for -/

/-- A message throws nothing, settles no promise and leaves the table as it is. -/
def Harmless (cfg : Config Args Value Obj Err) (d : MessageDispatcher)
    (message : Message Args Value Obj) : Prop :=
  (handleMessage cfg d message).1.messages = d.messages ∧
    (∀ text, (handleMessage cfg d message).2 ≠ .throw text) ∧
    ∀ promise outcome, (handleMessage cfg d message).2 ≠ .settle promise outcome

/-- **Replies that nobody waits for.**  After any calls, a reply to an id that no waiting request
has is harmless exactly when the table does not inherit the id and no failed request has it. -/
theorem harmless_iff (calls : List (Call Args Value Obj Err)) (hid : message.replyId = some id)
    (hwaiting : ∀ promise, (id, promise) ∉ (run cfg calls).waiting) :
    Harmless cfg (run cfg calls).dispatcher message ↔
      id ∉ objectPrototypeNames ∧ ∀ promise, (id, promise) ∉ (run cfg calls).failed := by
  have hinv := inv_run cfg calls
  constructor
  · rintro ⟨hkept, hthrow, -⟩
    have hown : id ∉ (run cfg calls).dispatcher.messages.ownKeys := by
      intro hown
      obtain ⟨promise, hpending⟩ := MessageTable.mem_ownKeys.mp hown
      rw [← hkept, hinv.mem_pending_handleMessage] at hpending
      exact hpending.2 hid.symm
    refine ⟨fun hname => ?_, fun promise hfailed => hown (hinv.keys _ (.inr hfailed))⟩
    obtain ⟨text, hhandle⟩ := hinv.handleMessage_of_not_mem cfg hid hown
    exact hthrow text (by rw [hhandle, if_pos hname])
  · rintro ⟨hname, hfailed⟩
    have hown : id ∉ (run cfg calls).dispatcher.messages.ownKeys := by
      intro hown
      obtain ⟨promise, hpending⟩ := MessageTable.mem_ownKeys.mp hown
      rcases hinv.entries _ hpending with hmem | hmem
      · exact hwaiting promise hmem
      · exact hfailed promise hmem
    obtain ⟨text, hhandle⟩ := hinv.handleMessage_of_not_mem cfg hid hown
    rw [if_neg hname] at hhandle
    rw [Harmless, hhandle]
    exact ⟨rfl, fun _ => nofun, fun _ _ => nofun⟩

/-- A dispatcher whose commands all return promises. -/
def plain : Config Unit ℕ String String where
  idPrefix := ""
  commands _ := some fun _ => .promise
  objToError error := error
  isWorker := false
  requestErrorObj error := error
  newError text := text

/-- A second reply to a request is harmless. -/
theorem harmless_twice :
    let calls : List (Call Unit ℕ String String) :=
      [.postRequest "a" () none, .handleMessage (.response "0" 7)]
    Harmless plain (run plain calls).dispatcher (.response "0" 7) := by
  refine (harmless_iff plain _ rfl fun promise => ?_).mpr ⟨by decide, fun promise => ?_⟩
  · exact List.not_mem_nil
  · exact List.not_mem_nil

/-- A reply to `toString` makes a dispatcher throw that has sent nothing. -/
theorem harmless_inherited :
    (∀ promise, ("toString", promise) ∉ (run plain []).waiting) ∧
      ¬ Harmless plain (run plain []).dispatcher (.response "toString" 7) := by
  refine ⟨fun promise => List.not_mem_nil, fun h => ?_⟩
  exact h.2.1 "pendingRequest.resolve is not a function" rfl

/-! ## Requests whose sending fails -/

/-- The table has an entry for each id that a request waits with, each entry is that of a waiting
request, and a reply to any other id of a request is unexpected. -/
structure Exact (cfg : Config Args Value Obj Err) (s : Recorded) : Prop where
  entries : ∀ entry ∈ s.dispatcher.messages.pending, entry ∈ s.waiting
  keys : ∀ request ∈ s.waiting, request.1 ∈ s.dispatcher.messages.ownKeys
  unexpected : ∀ request ∈ s.failed, (∀ promise, (request.1, promise) ∉ s.waiting) →
    ∀ message : Message Args Value Obj, message.replyId = some request.1 →
      ∃ text, handleMessage cfg s.dispatcher message = (s.dispatcher, .warn text)

/-- Without failures there are no failed requests. -/
lemma failed_run {calls : List (Call Args Value Obj Err)} (h : ∀ call ∈ calls, ¬ call.SendFails) :
    (run cfg calls).failed = [] := by
  induction calls using List.reverseRecOn with
  | nil => rfl
  | append_singleton calls call ih =>
      have hcalls := ih fun call hmem => h call (List.mem_append_left _ hmem)
      have hcall := h call (List.mem_append_right _ List.mem_cons_self)
      rw [run_concat]
      cases call with
      | postRequest requestType args thrown =>
          have hkept : ((run cfg calls).after cfg (.postRequest requestType args thrown)).failed =
              (run cfg calls).failed := if_neg hcall
          rw [hkept, hcalls]
      | handleMessage message =>
          have hrest : ((run cfg calls).after cfg (.handleMessage message)).failed =
              unanswered message (run cfg calls).failed := rfl
          rw [hrest, hcalls]
          rfl

/-- A request whose sending fails leaves its entry. -/
lemma not_exact_of_sendFails (h : s.Inv) {call : Call Args Value Obj Err}
    (hcall : call.SendFails) : ¬ Exact cfg (s.after cfg call) := by
  cases call with
  | handleMessage message => exact hcall.elim
  | postRequest requestType args thrown =>
      intro hexact
      have hkey := nextId_fst_ne_proto cfg.idPrefix s.dispatcher.requestId
      have hd : (s.after cfg (.postRequest requestType args thrown)).dispatcher = _ :=
        dispatcher_postRequest cfg requestType args thrown
      have hentry := hexact.entries
        ((nextId cfg.idPrefix s.dispatcher.requestId).1, s.dispatcher.promises) (by
          rw [hd]
          exact (MessageTable.mem_pending_set hkey).mpr (.inl ⟨rfl, rfl⟩))
      have hwaiting : (s.after cfg (.postRequest requestType args thrown)).waiting = s.waiting :=
        if_pos hcall
      rw [hwaiting] at hentry
      exact lt_irrefl _ (h.promises _ (.inl hentry))

/-- **Requests whose sending fails.**  The table is exact after every one of a run's calls exactly
when no sending fails. -/
theorem exact_iff (calls : List (Call Args Value Obj Err)) :
    (∀ k, Exact cfg (run cfg (calls.take k))) ↔ ∀ call ∈ calls, ¬ call.SendFails := by
  constructor
  · intro hexact call hmem hcall
    obtain ⟨before, rest, rfl⟩ := List.append_of_mem hmem
    refine not_exact_of_sendFails cfg (inv_run cfg before) hcall ?_
    have htake : (before ++ call :: rest).take (before.length + 1) = before ++ [call] := by
      rw [List.take_length_add_append, List.take_succ_cons, List.take_zero]
    rw [← run_concat, ← htake]
    exact hexact _
  · intro hcalls k
    have hinv := inv_run cfg (calls.take k)
    have hfailed : (run cfg (calls.take k)).failed = [] :=
      failed_run cfg fun call hmem => hcalls call (List.mem_of_mem_take hmem)
    refine ⟨fun entry hentry => ?_, fun request hrequest => hinv.keys _ (.inl hrequest), ?_⟩
    · rcases hinv.entries entry hentry with hmem | hmem
      · exact hmem
      · rw [hfailed] at hmem
        cases hmem
    · rw [hfailed]
      exact fun request hmem => by cases hmem

/-- One request, whose sending fails: its promise is rejected and its entry stays. -/
theorem exact_failedSend :
    let calls : List (Call Unit ℕ String String) := [.postRequest "a" () (some "closed")]
    (postRequest plain .new "a" () (some "closed")).2 = .settle 0 (.rejected "closed") ∧
      (run plain calls).waiting = [] ∧
      (run plain calls).dispatcher.messages.ownKeys = ["0"] ∧
      ¬ Exact plain (run plain calls) := by
  refine ⟨rfl, rfl, rfl, fun h => ?_⟩
  exact absurd (h.entries ("0", 0) (MessageTable.mem_pending.mpr rfl)) List.not_mem_nil

end Recorded

end MessageDispatcher

end TorOnion
