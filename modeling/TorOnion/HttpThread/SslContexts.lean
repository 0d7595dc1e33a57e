import TorOnion.Library.ArrayMap
import TorOnion.Library.CString
import TorOnion.Library.Runs

/-!
# Connecting, and the cache of custom TLS contexts

`HttpThread::connect` of `http_thread.rs`.  A client whose TLS configuration needs a context of its
own gets one from the cache, by the address of the configuration, or a new one that is put into
the cache; stale entries go first, and the oldest one when the cache is too large.  All other
clients use the context of the thread.  Where a connection goes, to the proxy or to the URL, is
decided separately on each of the three paths.

A client that connects may have to wait in `pending_h2_connects` of its context, and a shutdown
message for it then has to find that context (`abort_pending_h2_waiter`).  The contexts themselves
are not part of the repository: whether creating one fails and whether a client waits is in the
label of a step, and `NewHttpContext::abort_pending_h2_waiter` takes the waiter out when the
context holds it.  A context lives as long as something refers to it, so what waits keeps its
context alive when the cache has released it; here contexts are numbered and never go away.

Times are readings of the timer in nanoseconds, which `timer_read` checks to fit a `u64`.
-/

namespace TorOnion

/-! ## Data -/

/-- A `URL`; `portAuto` is what `get_port_auto` returns. -/
structure URL where
  href : List UInt8
  protocol : List UInt8
  hostname : List UInt8
  portAuto : UInt16
  deriving DecidableEq

/-- An `SSLConfig`, known by its address. -/
structure SSLConfig where
  address : ℕ
  requiresCustomRequestCtx : Bool

/-- The fields of an `HttpClient` that `connect` reads, and the id of its request. -/
structure HttpClient where
  asyncHttpId : UInt32
  unixSocketPath : List UInt8 := []
  tlsProps : Option SSLConfig := none
  httpProxy : Option URL := none
  url : URL

/-- A context of sockets: the plain and the TLS context of the thread, or one made by `connect`. -/
inductive ContextRef
  | http
  | https
  | custom (ctx : ℕ)
  deriving DecidableEq

/-- `SslContextCacheEntry`. -/
structure SslContextCacheEntry where
  ctx : ℕ
  lastUsedNs : ℕ
  configRef : ℕ
  deriving DecidableEq

/-- The errors of `connect`. -/
inductive ConnectError
  | failedToOpenSocket
  | unsupportedProxyProtocol
  deriving DecidableEq

/-- What a context is asked to connect to. -/
inductive Connection
  | socket (ctx : ContextRef) (path : List UInt8)
  | host (ctx : ContextRef) (hostname : List UInt8) (port : UInt16)
  deriving DecidableEq

/-- What the rest of the program does during `connect`: the readings of the timer when stale
entries are evicted and when an entry is used, whether creating a context fails, and whether the
client has to wait for its connection. -/
structure ConnectAnswers where
  evictNow : ℕ
  useNow : ℕ
  initFails : Bool := false
  waits : Bool := false

/-- The contexts of an `HttpThread`, with the cache, the contexts that the cache has released, and
the last reading of the timer. -/
structure HttpThread where
  customSslContextMap : List (ℕ × SslContextCacheEntry) := []
  nextContext : ℕ := 0
  released : List ℕ := []
  pendingH2Connects : ContextRef → List UInt32 := fun _ => []
  timer : ℕ := 0

namespace HttpThread

def sslContextCacheMaxSize : ℕ := 60

def sslContextCacheTtlNs : ℕ := 30 * (60 * 1000000000)

/-! ## The cache -/

/-- An entry is stale; the subtraction saturates. -/
def isStale (now : ℕ) (entry : ℕ × SslContextCacheEntry) : Bool :=
  decide (now - entry.2.lastUsedNs > sslContextCacheTtlNs)

/-- `evict_stale_ssl_contexts`. -/
def evictStaleSslContexts (now : ℕ) (s : HttpThread) : HttpThread :=
  let swept := ArrayMap.sweep (isStale now) s.customSslContextMap.length 0 s.customSslContextMap
  { s with
    customSslContextMap := swept.1
    released := s.released ++ swept.2.map fun entry => entry.2.ctx
    timer := now }

/-- `evict_oldest_ssl_context`. -/
def evictOldestSslContext (s : HttpThread) : HttpThread :=
  let oldest := ArrayMap.firstMin (fun entry => entry.2.lastUsedNs) (2 ^ 64 - 1)
    s.customSslContextMap
  match s.customSslContextMap[oldest]? with
  | none => s
  | some entry => { s with
      customSslContextMap := ArrayMap.swapRemove s.customSslContextMap oldest
      released := s.released ++ [entry.2.ctx] }

/-- The new context of `connect` goes into the cache. -/
def insertContext (config now : ℕ) (s : HttpThread) : HttpThread :=
  { s with
    customSslContextMap :=
      ArrayMap.put config ⟨s.nextContext, now, config⟩ s.customSslContextMap
    nextContext := s.nextContext + 1
    timer := now }

/-! ## Connecting -/

/-- Sets the clients that wait in a context. -/
def setPending (ctx : ContextRef) (ids : List UInt32) (s : HttpThread) : HttpThread :=
  { s with pendingH2Connects := Function.update s.pendingH2Connects ctx ids }

/-- `connect` of a context.  A client may have to wait in a TLS context. -/
def contextConnect (ctx : ContextRef) (client : HttpClient) (hostname : List UInt8)
    (port : UInt16) (answers : ConnectAnswers) (s : HttpThread) :
    HttpThread × Except ConnectError Connection :=
  (if answers.waits ∧ ctx ≠ .http then
      s.setPending ctx (s.pendingH2Connects ctx ++ [client.asyncHttpId])
    else s,
    .ok (.host ctx hostname port))

/-- The protocols that a proxy can have. -/
def supportsProtocol (url : URL) : Bool :=
  decide (url.protocol = [] ∨ url.protocol = ascii "https" ∨ url.protocol = ascii "http")

/-- `connect` when the cache has a context. -/
def connectCached (config : ℕ) (entry : SslContextCacheEntry) (client : HttpClient)
    (answers : ConnectAnswers) (s : HttpThread) : HttpThread × Except ConnectError Connection :=
  let s := { s with
    customSslContextMap := ArrayMap.modify config
      (fun entry => { entry with lastUsedNs := answers.useNow }) s.customSslContextMap
    timer := answers.useNow }
  match client.httpProxy with
  | some url => s.contextConnect (.custom entry.ctx) client url.hostname url.portAuto answers
  | none =>
      s.contextConnect (.custom entry.ctx) client client.url.hostname client.url.portAuto answers

/-- `connect` when a context is created. -/
def connectCreated (config : ℕ) (client : HttpClient) (answers : ConnectAnswers)
    (s : HttpThread) : HttpThread × Except ConnectError Connection :=
  if answers.initFails then (s, .error .failedToOpenSocket)
  else
    let ctx := s.nextContext
    let s := s.insertContext config answers.useNow
    let s := if s.customSslContextMap.length > sslContextCacheMaxSize then s.evictOldestSslContext
      else s
    match client.httpProxy with
    | some url =>
        if supportsProtocol url then
          s.contextConnect (.custom ctx) client url.hostname url.portAuto answers
        else (s, .error .unsupportedProxyProtocol)
    | none => s.contextConnect (.custom ctx) client client.url.hostname client.url.portAuto answers

/-- `connect` in a context of the thread. -/
def connectDefault (ctx : ContextRef) (client : HttpClient) (answers : ConnectAnswers)
    (s : HttpThread) : HttpThread × Except ConnectError Connection :=
  match client.httpProxy with
  | some url =>
      if url.href ≠ [] then
        if supportsProtocol url then
          s.contextConnect ctx client url.hostname url.portAuto answers
        else (s, .error .unsupportedProxyProtocol)
      else s.contextConnect ctx client client.url.hostname client.url.portAuto answers
  | none => s.contextConnect ctx client client.url.hostname client.url.portAuto answers

/-- The configuration of a client that needs a context of its own. -/
def customConfig (client : HttpClient) : Option ℕ :=
  client.tlsProps.bind fun tls => if tls.requiresCustomRequestCtx then some tls.address else none

/-- The context of the thread. -/
def context (isSsl : Bool) : ContextRef := if isSsl then .https else .http

/-- `connect`. -/
def connect (isSsl : Bool) (client : HttpClient) (answers : ConnectAnswers) (s : HttpThread) :
    HttpThread × Except ConnectError Connection :=
  if client.unixSocketPath ≠ [] then
    (s, .ok (.socket (context isSsl) client.unixSocketPath))
  else
    match if isSsl then customConfig client else none with
    | some config =>
        let s := s.evictStaleSslContexts answers.evictNow
        match s.customSslContextMap.lookup config with
        | some entry => s.connectCached config entry client answers
        | none => s.connectCreated config client answers
    | none => s.connectDefault (context isSsl) client answers

/-! ## Aborting -/

/-- `abort_pending_h2_waiter`: the TLS context of the thread is asked first, then those of the
cache. -/
def abortPendingH2Waiter (asyncHttpId : UInt32) (s : HttpThread) : Bool × HttpThread :=
  let contexts := .https :: s.customSslContextMap.map fun entry => ContextRef.custom entry.2.ctx
  match contexts.find? fun ctx => decide (asyncHttpId ∈ s.pendingH2Connects ctx) with
  | some ctx => (true, s.setPending ctx ((s.pendingH2Connects ctx).erase asyncHttpId))
  | none => (false, s)

/-! ## Steps -/

/-- The steps of a run. -/
inductive Label
  | connect (isSsl : Bool) (client : HttpClient) (answers : ConnectAnswers)
  /-- The connection that a client waits for is made or fails. -/
  | resolveWaiter (ctx : ContextRef) (asyncHttpId : UInt32)
  /-- `drain_queued_shutdowns` handles a message that the abort tracker does not know. -/
  | drainShutdown (asyncHttpId : UInt32)

/-- One step.  The timer does not go back. -/
def step (s : HttpThread) : Label → Option HttpThread
  | .connect isSsl client answers =>
      if s.timer ≤ answers.evictNow ∧ answers.evictNow ≤ answers.useNow ∧
        answers.useNow < 2 ^ 64 then some (s.connect isSsl client answers).1
      else none
  | .resolveWaiter ctx asyncHttpId =>
      some (s.setPending ctx ((s.pendingH2Connects ctx).erase asyncHttpId))
  | .drainShutdown asyncHttpId => some (s.abortPendingH2Waiter asyncHttpId).2

/-- The threads that runs arrive at. -/
def Reachable (s : HttpThread) : Prop :=
  Relation.ReflTransGen (fun s s' => ∃ label, step s label = some s') {} s

end HttpThread

end TorOnion
