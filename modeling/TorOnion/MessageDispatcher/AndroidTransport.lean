import TorOnion.Library.Promise

/-!
# The transport to an Android app: `TUTA/mail/native_transport.ts`

The port to the app comes with a message to the window, some time after `start` has asked for it;
until then the messages that are posted wait for the promise of the port.  Each post is a reaction
of that promise, whether the port is there or not, so the messages reach the app in the order in
which they were posted, through the first port that came (`posts_delivered`).  That a later port
is listened to, but not sent to, is what the source does.

The codec and the kinds of handlers are not part of the repository.  `decodeNativeMessage` may
throw: then the handler is not called.  The reactions of the promise run as microtasks, one at a
time and at any time.  A message to the window that has no port is left out.
-/

namespace TorOnion

/-- An `AndroidNativeTransport`, with whether the window has its `onmessage`, the ports that have
theirs, and what handlers were called with. -/
structure AndroidNativeTransport (Port Handler Message Encoded : Type*) where
  messageHandler : Option Handler := none
  deferredPort : Promise Port Encoded := {}
  started : Bool := false
  listening : List Port := []
  handled : List (Handler × Message) := []

namespace AndroidNativeTransport

variable {Port Handler Message Encoded : Type*}

/-! ## The source -/

section Source

variable (encodeNativeMessage : Message → Encoded) (decodeNativeMessage : Encoded → Option Message)
  (t : AndroidNativeTransport Port Handler Message Encoded)

def start : AndroidNativeTransport Port Handler Message Encoded := { t with started := true }

/-- `window.onmessage`. -/
def onWindowMessage (port : Port) : AndroidNativeTransport Port Handler Message Encoded :=
  if t.started then
    { t with
      listening := t.listening ++ [port]
      deferredPort := t.deferredPort.resolve port }
  else t

/-- `port.onmessage`. -/
def onPortMessage [DecidableEq Port] (port : Port) (data : Encoded) :
    AndroidNativeTransport Port Handler Message Encoded :=
  if port ∈ t.listening then
    match t.messageHandler, decodeNativeMessage data with
    | some handler, some response => { t with handled := t.handled ++ [(handler, response)] }
    | _, _ => t
  else t

def postMessage (message : Message) : AndroidNativeTransport Port Handler Message Encoded :=
  { t with deferredPort := t.deferredPort.react (encodeNativeMessage message) }

def setMessageHandler (handler : Handler) : AndroidNativeTransport Port Handler Message Encoded :=
  { t with messageHandler := some handler }

/-- A microtask: `port.postMessage(encoded)` of the oldest reaction. -/
def runMicrotask : AndroidNativeTransport Port Handler Message Encoded :=
  { t with deferredPort := t.deferredPort.runJob }

end Source

/-- What was posted to the ports, in order. -/
def sent (t : AndroidNativeTransport Port Handler Message Encoded) : List (Port × Encoded) :=
  t.deferredPort.ran

/-- Microtasks run the jobs of the promise. -/
lemma deferredPort_runMicrotask (t : AndroidNativeTransport Port Handler Message Encoded)
    (n : ℕ) :
    (runMicrotask^[n] t).deferredPort = Promise.runJob^[n] t.deferredPort := by
  induction n generalizing t with
  | zero => rfl
  | succ n ih => rw [Function.iterate_succ_apply, ih, runMicrotask, Function.iterate_succ_apply]

/-! ## Steps -/

inductive Label (Port Handler Message Encoded : Type*)
  | start
  | windowMessage (port : Port)
  | portMessage (port : Port) (data : Encoded)
  | postMessage (message : Message)
  | setMessageHandler (handler : Handler)
  | microtask

section Steps

variable [DecidableEq Port] (encodeNativeMessage : Message → Encoded)
  (decodeNativeMessage : Encoded → Option Message)

def step (t : AndroidNativeTransport Port Handler Message Encoded) :
    Label Port Handler Message Encoded → AndroidNativeTransport Port Handler Message Encoded
  | .start => t.start
  | .windowMessage port => t.onWindowMessage port
  | .portMessage port data => t.onPortMessage decodeNativeMessage port data
  | .postMessage message => t.postMessage encodeNativeMessage message
  | .setMessageHandler handler => t.setMessageHandler handler
  | .microtask => t.runMicrotask

/-- The messages that a run posts. -/
def posts (labels : List (Label Port Handler Message Encoded)) : List Message :=
  labels.filterMap fun
    | .postMessage message => some message
    | _ => none

/-- The ports that come once the window listens. -/
def ports : Bool → List (Label Port Handler Message Encoded) → List Port
  | _, [] => []
  | started, label :: labels =>
      match label with
      | .start => ports true labels
      | .windowMessage port =>
          if started then port :: ports started labels else ports started labels
      | _ => ports started labels

variable {encodeNativeMessage} {decodeNativeMessage}
  {t : AndroidNativeTransport Port Handler Message Encoded}
  {label : Label Port Handler Message Encoded}

/-- The step lemma: the promise stays sound, and a post is one more reaction. -/
lemma deferredPort_step (h : t.deferredPort.Sound) :
    (t.step encodeNativeMessage decodeNativeMessage label).deferredPort.Sound ∧
      (t.step encodeNativeMessage decodeNativeMessage label).deferredPort.log =
        t.deferredPort.log ++ (posts [label]).map encodeNativeMessage := by
  cases label with
  | start => exact ⟨h, (List.append_nil _).symm⟩
  | windowMessage port =>
      rw [step, onWindowMessage]
      split
      · exact ⟨h.resolve port, (Promise.log_resolve port).trans (List.append_nil _).symm⟩
      · exact ⟨h, (List.append_nil _).symm⟩
  | portMessage port data =>
      rw [step, onPortMessage]
      split
      · split
        · exact ⟨h, (List.append_nil _).symm⟩
        · exact ⟨h, (List.append_nil _).symm⟩
      · exact ⟨h, (List.append_nil _).symm⟩
  | postMessage message => exact ⟨h.react _, h.log_react _⟩
  | setMessageHandler handler => exact ⟨h, (List.append_nil _).symm⟩
  | microtask => exact ⟨h.runJob, Promise.log_runJob.trans (List.append_nil _).symm⟩

/-- The run lemma. -/
lemma deferredPort_foldl (h : t.deferredPort.Sound)
    (labels : List (Label Port Handler Message Encoded)) :
    (labels.foldl (step encodeNativeMessage decodeNativeMessage) t).deferredPort.Sound ∧
      (labels.foldl (step encodeNativeMessage decodeNativeMessage) t).deferredPort.log =
        t.deferredPort.log ++ (posts labels).map encodeNativeMessage := by
  induction labels generalizing t with
  | nil => exact ⟨h, (List.append_nil _).symm⟩
  | cons label labels ih =>
      obtain ⟨hsound, hlog⟩ := @deferredPort_step Port Handler Message Encoded _
        encodeNativeMessage decodeNativeMessage t label h
      obtain ⟨hsound', hlog'⟩ := ih hsound
      refine ⟨hsound', ?_⟩
      rw [List.foldl_cons, hlog', hlog, List.append_assoc, ← List.map_append, posts, posts, posts,
        ← List.filterMap_append, List.singleton_append]

/-- A message from a port changes neither the promise nor what the window listens to. -/
lemma onPortMessage_frame (port : Port) (data : Encoded) :
    (t.onPortMessage decodeNativeMessage port data).deferredPort = t.deferredPort ∧
      (t.onPortMessage decodeNativeMessage port data).started = t.started := by
  rw [onPortMessage]
  split
  · split <;> exact ⟨rfl, rfl⟩
  · exact ⟨rfl, rfl⟩

/-- The port is the first that came. -/
lemma value_foldl (labels : List (Label Port Handler Message Encoded)) :
    (labels.foldl (step encodeNativeMessage decodeNativeMessage) t).deferredPort.value =
      (t.deferredPort.value.toList ++ ports t.started labels).head? := by
  induction labels generalizing t with
  | nil =>
      rw [List.foldl_nil, ports, List.append_nil]
      cases t.deferredPort.value <;> rfl
  | cons label labels ih =>
      rw [List.foldl_cons, ih]
      cases label with
      | start => rfl
      | windowMessage port =>
          show ((t.onWindowMessage port).deferredPort.value.toList ++
              ports (t.onWindowMessage port).started labels).head? =
            (t.deferredPort.value.toList ++
              if t.started then port :: ports t.started labels else ports t.started labels).head?
          rw [onWindowMessage]
          split
          · show ((t.deferredPort.resolve port).value.toList ++ ports t.started labels).head? = _
            rw [Promise.value_resolve]
            cases t.deferredPort.value <;> rfl
          · rfl
      | portMessage port data =>
          rw [step, (onPortMessage_frame port data).1, (onPortMessage_frame port data).2]
          rfl
      | postMessage message =>
          rw [step, postMessage, Promise.value_react]
          rfl
      | setMessageHandler handler => rfl
      | microtask =>
          rw [step, runMicrotask, Promise.value_runJob]
          rfl

variable (encodeNativeMessage) (decodeNativeMessage) in
/-- **The transport delivers in order, to one port.**  However posts, microtasks, ports and their
messages follow each other, what has been sent is the beginning of what was posted, encoded, and
all of it went to the first port that came; and when such a port has come and the microtasks that
are queued have run, all that was posted has been sent, each message once. -/
theorem posts_delivered (labels : List (Label Port Handler Message Encoded)) :
    let t := labels.foldl (step encodeNativeMessage decodeNativeMessage) {}
    t.sent.map Prod.snd <+: (posts labels).map encodeNativeMessage ∧
      (∀ m ∈ t.sent, (ports false labels).head? = some m.1) ∧
      ∀ port, (ports false labels).head? = some port →
        (runMicrotask^[t.deferredPort.jobs.length] t).sent =
          (posts labels).map fun message => (port, encodeNativeMessage message) := by
  intro t
  obtain ⟨hsound, hlog⟩ := deferredPort_foldl (t := {}) Promise.sound_empty labels
  have hvalue : t.deferredPort.value = (ports false labels).head? := value_foldl labels
  refine ⟨?_, fun m hm => ?_, fun port hport => ?_⟩
  · exact Promise.ran_prefix.trans (hlog ▸ List.prefix_refl _)
  · rw [← hvalue]
    exact hsound.values m (List.mem_append_left _ hm)
  · have hall := hsound.ran_all (hvalue.trans hport)
    rw [sent, deferredPort_runMicrotask, hall, hlog]
    exact List.map_map

/-- Two messages are posted before the port comes and one after it, and a second port comes. -/
example : ([.postMessage 1, .start, .postMessage 2, .windowMessage 7, .postMessage 3, .microtask,
    .windowMessage 8, .microtask, .microtask].foldl (step (2 * ·) some)
      ({} : AndroidNativeTransport ℕ ℕ ℕ ℕ)).sent = [(7, 2), (7, 4), (7, 6)] := rfl

end Steps

end AndroidNativeTransport

end TorOnion
