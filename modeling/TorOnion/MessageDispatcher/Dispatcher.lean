import Mathlib.Data.List.AList
import Mathlib.Tactic
import Std.Data.String.ToNat

/-!
# The message dispatcher: `TUTA/mail/message_dispatched.ts`

A `MessageDispatcher` sends requests over a transport and answers those of the other side.  The
requests that it waits for are in `_messages`, under their ids, with the two functions of their
promise; here a promise is its number, counted by the calls of `postRequest`.

`_messages` is an object literal, and reading a property of it also sees its prototype: a name of
`Object.prototype` is found without having been stored, and `__proto__` is no key at all.
`MessageTable` keeps this.  The ids that a dispatcher gives out end in a digit, which none of those
names does (`nextId_ne_proto`).

A call has one effect beside the table, an `Effect`: it settles a promise, posts a message, calls a
command, warns or throws.  `MessageTypes.js` is not part of the repository: a `Response` and a
`RequestError` carry what they are built from, the error in the form `requestErrorObj` gives it.
The promise of a request is made by the constructor of `Promise`.
-/

namespace TorOnion

namespace MessageDispatcher

/-! ## The table -/

/-- `_messages`: its own properties, and its prototype, which is `Object.prototype` until
callbacks are assigned to `__proto__`. -/
structure MessageTable where
  own : AList fun _ : String => ℕ
  proto : Option ℕ

/-- The property names of `Object.prototype`. -/
def objectPrototypeNames : List String :=
  ["constructor", "__defineGetter__", "__defineSetter__", "hasOwnProperty", "__lookupGetter__",
    "__lookupSetter__", "isPrototypeOf", "propertyIsEnumerable", "toString", "valueOf",
    "__proto__", "toLocaleString"]

/-- What reading a property gives: callbacks, something inherited that has neither a `resolve` nor
a `reject`, or `undefined`. -/
inductive Property
  | callbacks (promise : ℕ)
  | inherited
  | undefined
  deriving DecidableEq

namespace MessageTable

/-- `{}`. -/
def empty : MessageTable := ⟨∅, none⟩

/-- `_messages[key]`. -/
def get (t : MessageTable) (key : String) : Property :=
  if key = "__proto__" then
    match t.proto with
    | some promise => .callbacks promise
    | none => .inherited
  else
    match t.own.lookup key with
    | some promise => .callbacks promise
    | none =>
        if key ∈ objectPrototypeNames ∨ t.proto.isSome ∧ key ∈ ["resolve", "reject"] then
          .inherited
        else .undefined

/-- `_messages[key] = { resolve, reject }`. -/
def set (t : MessageTable) (key : String) (promise : ℕ) : MessageTable :=
  if key = "__proto__" then { t with proto := some promise }
  else { t with own := t.own.insert key promise }

/-- `delete _messages[key]`. -/
def delete (t : MessageTable) (key : String) : MessageTable := { t with own := t.own.erase key }

/-- The own keys. -/
def ownKeys (t : MessageTable) : List String := t.own.keys

end MessageTable

/-! ## Messages -/

/-- A request as it is posted, with its id. -/
structure Request (Args : Type*) where
  id : String
  requestType : String
  args : Args

/-- `Message`.  Anything else that arrives is shown by its JSON text. -/
inductive Message (Args Value Obj : Type*)
  | response (id : String) (value : Value)
  | requestError (id : String) (error : Obj)
  | request (request : Request Args)
  | other (json : String)

/-- What a command gives back when it is called. -/
inductive CommandResult
  | promise
  | nonPromise
  | throws (text : String)

/-- What a promise is settled with. -/
inductive Outcome (Value Err : Type*)
  | resolved (value : Value)
  | rejected (error : Err)

/-- What a call does beside the table. -/
inductive Effect (Args Value Obj Err : Type*)
  /-- The promise is settled. -/
  | settle (promise : ℕ) (outcome : Outcome Value Err)
  /-- `transport.postMessage`. -/
  | post (message : Message Args Value Obj)
  /-- A command has returned a promise, whose outcome is to be sent to this id. -/
  | await (id : String)
  /-- `console.warn`. -/
  | warn (text : String)
  | throw (text : String)

/-- What a dispatcher is built with, and the functions it uses from elsewhere. -/
structure Config (Args Value Obj Err : Type*) where
  idPrefix : String
  commands : String → Option (Request Args → CommandResult)
  objToError : Obj → Err
  isWorker : Bool
  /-- The form in which `RequestError` keeps an error. -/
  requestErrorObj : Err → Obj
  newError : String → Err

end MessageDispatcher

open MessageDispatcher in
/-- The state of a `MessageDispatcher`, with the counter of its id generator and the number of
promises made. -/
structure MessageDispatcher where
  messages : MessageTable
  requestId : ℕ
  promises : ℕ

namespace MessageDispatcher

variable {Args Value Obj Err : Type*}

/-! ## The source -/

/-- `Number.MAX_SAFE_INTEGER`. -/
def maxSafeInteger : ℕ := 2 ^ 53 - 1

/-- The function that `makeRequestIdGenerator` returns: the id, and the counter after it. -/
def nextId (idPrefix : String) (requestId : ℕ) : String × ℕ :=
  let requestId := if requestId ≥ maxSafeInteger then 0 else requestId
  (idPrefix ++ toString requestId, requestId + 1)

/-- The constructor. -/
def new : MessageDispatcher := ⟨.empty, 0, 0⟩

/-- `postRequest`, where `thrown` is what `transport.postMessage` throws, if it does. -/
def postRequest (cfg : Config Args Value Obj Err) (d : MessageDispatcher) (requestType : String)
    (args : Args) (thrown : Option Err) : MessageDispatcher × Effect Args Value Obj Err :=
  let (id, requestId) := nextId cfg.idPrefix d.requestId
  let d' : MessageDispatcher :=
    { messages := d.messages.set id d.promises
      requestId := requestId
      promises := d.promises + 1 }
  match thrown with
  | none => (d', .post (.request ⟨id, requestType, args⟩))
  | some e => (d', .settle d.promises (.rejected e))

/-- `handleMessage`. -/
def handleMessage (cfg : Config Args Value Obj Err) (d : MessageDispatcher) :
    Message Args Value Obj → MessageDispatcher × Effect Args Value Obj Err
  | .response id value =>
      match d.messages.get id with
      | .callbacks promise =>
          ({ d with messages := d.messages.delete id }, .settle promise (.resolved value))
      | .inherited => (d, .throw "pendingRequest.resolve is not a function")
      | .undefined => (d, .warn ("Unexpected response: " ++ id ++ " (was the page reloaded?)"))
  | .requestError id error =>
      match d.messages.get id with
      | .callbacks promise =>
          ({ d with messages := d.messages.delete id },
            .settle promise (.rejected (cfg.objToError error)))
      | .inherited => (d, .throw "pendingRequest.reject is not a function")
      | .undefined =>
          (d, .warn ("Unexpected error response: " ++ id ++ " (was the page reloaded?)"))
  | .request message =>
      match cfg.commands message.requestType with
      | some command =>
          match command message with
          | .promise => (d, .await message.id)
          | .nonPromise =>
              (d, .throw ("Handler returned non-promise result: " ++ message.requestType))
          | .throws text => (d, .throw text)
      | none =>
          let text := "unexpected request: " ++ message.id ++ ", " ++ message.requestType
          if cfg.isWorker then
            (d, .post (.requestError message.id (cfg.requestErrorObj (cfg.newError text))))
          else (d, .throw text)
  | .other json => (d, .throw ("Unexpected request type: " ++ json))

/-- The message that the callbacks of `commandResult.then` post. -/
def replyTo (cfg : Config Args Value Obj Err) (id : String) :
    Outcome Value Err → Message Args Value Obj
  | .resolved value => .response id value
  | .rejected error => .requestError id (cfg.requestErrorObj error)

/-! ## The table as a bag of entries -/

namespace MessageTable

/-- The own entries, in no order. -/
def pending (t : MessageTable) : Multiset (String × ℕ) :=
  ↑(t.own.entries.map fun e => (e.1, e.2))

variable {t : MessageTable} {key : String} {promise : ℕ}

lemma mem_pending : (key, promise) ∈ t.pending ↔ t.own.lookup key = some promise := by
  rw [pending, Multiset.mem_coe, List.mem_map, ← Option.mem_def, AList.mem_lookup_iff]
  constructor
  · rintro ⟨⟨_, _⟩, hmem, heq⟩
    obtain ⟨rfl, rfl⟩ := Prod.mk.inj heq
    exact hmem
  · exact fun hmem => ⟨⟨key, promise⟩, hmem, rfl⟩

lemma mem_ownKeys : key ∈ t.ownKeys ↔ ∃ promise, (key, promise) ∈ t.pending := by
  simp only [mem_pending, ← Option.isSome_iff_exists, AList.lookup_isSome]
  rfl

/-- A stored entry is what a read gives. -/
lemma get_of_mem (hkey : key ≠ "__proto__") (h : (key, promise) ∈ t.pending) :
    t.get key = .callbacks promise := by
  rw [get, if_neg hkey, mem_pending.mp h]

/-- A new key is one more entry. -/
lemma pending_set (hkey : key ≠ "__proto__") (hnew : key ∉ t.ownKeys) (promise : ℕ) :
    (t.set key promise).pending = (key, promise) ::ₘ t.pending := by
  rw [set, if_neg hkey, pending, pending, AList.entries_insert_of_notMem hnew]
  rfl

/-- A deletion takes the entry of its key away. -/
lemma pending_delete (h : (key, promise) ∈ t.pending) :
    t.pending = (key, promise) ::ₘ (t.delete key).pending := by
  have hmem := AList.mem_lookup_iff.mp (mem_pending.mp h)
  obtain ⟨promise', before, after, -, hentries, herase⟩ :=
    List.exists_of_kerase (List.mem_keys_of_mem hmem)
  have hmem' : (⟨key, promise'⟩ : (_ : String) × ℕ) ∈ t.own.entries := by
    rw [hentries]
    exact List.mem_append_right _ List.mem_cons_self
  obtain rfl := t.own.nodupKeys.eq_of_mk_mem hmem hmem'
  have hdelete : (t.delete key).own.entries = before ++ after := herase
  rw [pending, pending, hdelete, hentries, List.map_append, List.map_append, List.map_cons]
  exact Multiset.coe_eq_coe.mpr List.perm_middle

end MessageTable

/-! ## Ids -/

/-- An id ends in a digit. -/
lemma getLast?_id (idPrefix : String) (n : ℕ) :
    (idPrefix ++ toString n).toList.getLast?.any Char.isDigit = true := by
  have hdigits : Nat.toDigits 10 n ≠ [] := Nat.toDigits_ne_nil
  have htoList : (idPrefix ++ toString n).toList = idPrefix.toList ++ Nat.toDigits 10 n := by
    simp
  rw [htoList, List.getLast?_append_of_ne_nil _ hdigits, List.getLast?_eq_some_getLast hdigits]
  exact Nat.isDigit_of_mem_toDigits (by decide) (by decide) (List.getLast_mem hdigits)

/-- An id is no name that the table treats in its own way. -/
lemma nextId_ne_proto (idPrefix : String) (n : ℕ) : idPrefix ++ toString n ≠ "__proto__" := by
  intro h
  have hid := getLast?_id idPrefix n
  rw [h] at hid
  exact absurd hid (by decide)

lemma id_injective {idPrefix : String} {m n : ℕ}
    (h : idPrefix ++ toString m = idPrefix ++ toString n) : m = n :=
  Nat.repr_inj.mp ((String.append_right_inj _).mp h)

/-! ## Replies -/

/-- A reply: the id it carries, and what its receiver settles a promise with. -/
def Message.asReply (receiver : Config Args Value Obj Err) :
    Message Args Value Obj → Option (String × Outcome Value Err)
  | response id value => some (id, .resolved value)
  | requestError id error => some (id, .rejected (receiver.objToError error))
  | request _ => none
  | other _ => none

/-- What an outcome becomes on its way to the other side. -/
def Outcome.received (sender receiver : Config Args Value Obj Err) :
    Outcome Value Err → Outcome Value Err
  | resolved value => .resolved value
  | rejected error => .rejected (receiver.objToError (sender.requestErrorObj error))

lemma asReply_replyTo (sender receiver : Config Args Value Obj Err) (id : String)
    (outcome : Outcome Value Err) :
    (replyTo sender id outcome).asReply receiver =
      some (id, outcome.received sender receiver) := by
  cases outcome <;> rfl

variable {cfg : Config Args Value Obj Err} {d : MessageDispatcher} {id : String} {promise : ℕ}

/-- A reply to a request that is waited for settles its promise and removes its entry. -/
lemma handleMessage_reply {message : Message Args Value Obj} {outcome : Outcome Value Err}
    (hreply : message.asReply cfg = some (id, outcome)) (hid : id ≠ "__proto__")
    (h : (id, promise) ∈ d.messages.pending) :
    handleMessage cfg d message =
      ({ d with messages := d.messages.delete id }, .settle promise outcome) := by
  have hget := MessageTable.get_of_mem hid h
  cases message with
  | response id' value =>
      obtain ⟨rfl, rfl⟩ := Prod.mk.inj (Option.some.inj hreply)
      simp only [handleMessage, hget]
  | requestError id' error =>
      obtain ⟨rfl, rfl⟩ := Prod.mk.inj (Option.some.inj hreply)
      simp only [handleMessage, hget]
  | request message => cases hreply
  | other json => cases hreply

/-- A request whose command returns a promise changes nothing in the dispatcher. -/
lemma handleMessage_request {request : Request Args} {command : Request Args → CommandResult}
    (hcommand : cfg.commands request.requestType = some command)
    (hpromise : command request = .promise) :
    handleMessage cfg d (.request request) = (d, .await request.id) := by
  simp only [handleMessage, hcommand, hpromise]

end MessageDispatcher

end TorOnion
