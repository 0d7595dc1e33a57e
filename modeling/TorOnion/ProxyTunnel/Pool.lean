import Mathlib.Data.Bool.AllAny
import Mathlib.Logic.Function.Basic
import Mathlib.Tactic
import TorOnion.Library.Runs
import TorOnion.ProxyTunnel.WriteBuffer

/-!
# A tunnel and its owners: `networking/prox_tunnel.rs`

A tunnel outlives the client that has started it: `detach_owner` leaves it to the pool with what
the handshake has found out, and `adopt` hands it to the next client.  The TLS session goes on, so
its callbacks name the new owner; the buffer is emptied, so that no bytes of one owner reach the
socket of another.

The tunnel counts its references: the owner's or the pool's, and those that `on_close` takes so
that the tunnel survives a client that lets go of it meanwhile.  The latter are given back by
`drain_events` (`schedule_proxy_deref`).  A function that reads or writes a field of the tunnel
goes through `access`, which has no result once the tunnel has been freed.

A `PooledTunnel` is a tunnel with the flag of its clients, and with the history of what its owners
wrote and of the handshake.  `progress_update`, `close_and_fail` and the pool are not part of the
repository: the label of a step says what the client does with the tunnel during `on_close`, and
the pool may have a tunnel that it holds adopted, or close it.  A client that has let go of a
tunnel does not name it any more, whatever the wrapper's handlers say.  The guards that a call
takes and gives back are left out.
-/

namespace TorOnion

/-- The errors that a tunnel is closed with. -/
inductive TunnelError
  | connectionClosed
  | connectionRefused
  /-- `get_cert_error_from_no`. -/
  | certificate (errorNo : ℤ)
  deriving DecidableEq

namespace PooledTunnel

/-- An `HTTPClient`. -/
abbrev Owner := ℕ

/-- Who has the reference that is not queued. -/
inductive Holder
  /-- The client that the wrapper's handlers name. -/
  | client
  | pool
  | nobody
  deriving DecidableEq

/-- What one owner passed to `write_encrypted`, and what its socket accepted. -/
structure Session where
  client : Owner
  written : List UInt8
  accepted : List UInt8

/-- What can be seen of a run. -/
inductive Event
  /-- `on_handshake` has the client write its request. -/
  | requestWritten (client : Owner)
  /-- `close_and_fail`. -/
  | failed (client : Owner) (error : TunnelError)
  /-- `progress_update` after the last chunk. -/
  | finished (client : Owner)
  deriving DecidableEq

/-- The arguments of `on_handshake`, whether the wrapper has its `ssl`, and the answer of
`check_server_identity`. -/
structure Handshake where
  success : Bool
  errorNo : ℤ
  hasSsl : Bool
  identityOk : Bool

/-- What a client does with its tunnel: it may keep it, drop its reference, or leave it to the
pool. -/
inductive Release
  | keeps
  | dereferences
  | pools

/-- What `on_close` reads of the client's state. -/
structure ResponseState where
  doneOrFailed : Bool
  isRedirectPending : Bool
  isChunkedEncoding : Bool
  chunkedDecoderState : ℕ
  hasContentLength : Bool
  responseStageIsBody : Bool

end PooledTunnel

open PooledTunnel in
/-- A tunnel with what surrounds it.  `ctx` is the client that the wrapper's handlers name,
`clientErrors` the `did_have_handshaking_error` of the clients, and `verdict` what the last
successful handshake said of the certificate. -/
structure PooledTunnel where
  link : Link
  ctx : Owner
  shutdownErr : TunnelError := .connectionClosed
  didHaveHandshakingError : Bool := false
  establishedWithRejectUnauthorized : Bool := false
  refCount : ℕ := 1
  queuedDerefs : ℕ := 0
  holder : Holder := .client
  clientErrors : Owner → Bool
  freed : ℕ := 0
  written : List UInt8 := []
  sessions : List Session := []
  verdict : Option Bool := none
  log : List Event := []

namespace PooledTunnel

/-! ## The source -/

/-- `ProxyTunnel::start`, when the wrapper could be made. -/
def start (client : Owner) (socket : TunnelSocket) (clientErrors : Owner → Bool) :
    PooledTunnel where
  link := .attached socket
  ctx := client
  clientErrors := clientErrors

/-- The fields of a tunnel can be read and written until it is freed. -/
def access (t : PooledTunnel) : Option PooledTunnel := if t.freed = 0 then some t else none

/-- `ProxyTunnel::deref`. -/
def deref (t : PooledTunnel) : Option PooledTunnel := do
  let t ← t.access
  match t.refCount with
  | 0 => none
  | count + 1 =>
      some { t with refCount := count, freed := if count = 0 then t.freed + 1 else t.freed }

/-- `detach_socket`. -/
def detachSocket (t : PooledTunnel) : Option PooledTunnel := do
  let t ← t.access
  some { t with link.tunnel.socket := .none }

/-- `detach_and_deref`, by whoever has the reference. -/
def detachAndDeref (t : PooledTunnel) : Option PooledTunnel := do
  let t ← t.detachSocket
  { t with holder := .nobody }.deref

/-- `close_raw`, up to the shutdown of the wrapper. -/
def closeRaw (err : TunnelError) (t : PooledTunnel) : Option PooledTunnel := do
  let t ← t.access
  some { t with shutdownErr := err }

/-- The end of `on_handshake`: the client writes its request to the socket. -/
def writeRequest (t : PooledTunnel) : Option PooledTunnel := do
  let t ← t.access
  match t.link.tunnel.socket with
  | .none => some t
  | _ => some { t with log := t.log ++ [.requestWritten t.ctx] }

section Source

variable (rejectUnauthorized : Owner → Bool)

/-- The client notes whether the handshake has found an error. -/
def noteError (errorNo : ℤ) (t : PooledTunnel) : PooledTunnel :=
  { t with
    clientErrors := Function.update t.clientErrors t.ctx (errorNo != 0)
    verdict := some (errorNo != 0) }

/-- `on_handshake` of a handshake that has succeeded, after the error is noted. -/
def onHandshakeSuccess (h : Handshake) (t : PooledTunnel) : Option PooledTunnel :=
  if rejectUnauthorized t.ctx then
    if t.clientErrors t.ctx then t.closeRaw (.certificate h.errorNo)
    else do
      let t ← t.access
      if h.hasSsl = false then some t
      else if t.link.tunnel.socket ≠ .none ∧ h.identityOk = false then some t
      else t.writeRequest
  else t.writeRequest

/-- `on_handshake`. -/
def onHandshake (h : Handshake) (t : PooledTunnel) : Option PooledTunnel :=
  if t.holder ≠ .client then some t
  else do
    let t ← t.access
    if h.success then (t.noteError h.errorNo).onHandshakeSuccess rejectUnauthorized h
    else if t.clientErrors t.ctx ∧ h.errorNo ≠ 0 then t.closeRaw (.certificate h.errorNo)
    else t.closeRaw .connectionRefused

/-- `on_close` takes the end of the connection as the end of the response. -/
def endsResponse (s : ResponseState) : Bool :=
  !s.doneOrFailed && !s.isRedirectPending &&
    if s.isChunkedEncoding then s.chunkedDecoderState == 4 || s.chunkedDecoderState == 5
    else !s.hasContentLength && s.responseStageIsBody

/-- `detach_owner`, when the client leaves the tunnel to the pool. -/
def detachOwner (t : PooledTunnel) : Option PooledTunnel := do
  let t ← t.access
  some { t with
    link.tunnel.socket := .none
    didHaveHandshakingError := t.clientErrors t.ctx
    establishedWithRejectUnauthorized :=
      t.establishedWithRejectUnauthorized || rejectUnauthorized t.ctx
    holder := .pool
    sessions := t.sessions ++ [⟨t.ctx, t.written, t.link.accepted⟩] }

/-- What the client does with its tunnel meanwhile. -/
def letGo (release : Release) (t : PooledTunnel) : Option PooledTunnel :=
  match release with
  | .keeps => some t
  | .dereferences => t.detachAndDeref
  | .pools => t.detachOwner rejectUnauthorized

/-- A call of the client with the socket of the tunnel: there is none when the socket is gone. -/
def callClient (event : Event) (release : Release) (t : PooledTunnel) : Option PooledTunnel := do
  let t ← t.access
  match t.link.tunnel.socket with
  | .none => some t
  | _ => letGo rejectUnauthorized release { t with log := t.log ++ [event] }

/-- `schedule_proxy_deref`: the address of the tunnel is queued. -/
def scheduleProxyDeref (t : PooledTunnel) : PooledTunnel :=
  { t with queuedDerefs := t.queuedDerefs + 1 }

/-- `on_close`; `release` is what the client does with the tunnel in `progress_update` or in
`close_and_fail`. -/
def onClose (s : ResponseState) (release : Release) (t : PooledTunnel) : Option PooledTunnel :=
  if t.holder ≠ .client then some t
  else do
    let t ← t.access
    let t := { t with refCount := t.refCount + 1 }
    if endsResponse s then
      let t ← t.callClient rejectUnauthorized (.finished t.ctx) release
      some t.scheduleProxyDeref
    else
      let t ← t.callClient rejectUnauthorized (.failed t.ctx t.shutdownErr) release
      let t ← t.detachSocket
      some t.scheduleProxyDeref

/-- The loop of `drain_events` over `queued_threadlocal_proxy_derefs`. -/
def drainDerefs (t : PooledTunnel) : Option PooledTunnel :=
  (List.range t.queuedDerefs).foldlM (fun t _ => t.deref) { t with queuedDerefs := 0 }

/-- `adopt`. -/
def adopt (client : Owner) (socket : TunnelSocket) (t : PooledTunnel) : Option PooledTunnel := do
  let t ← t.access
  some { t with
    link := ⟨⟨socket, t.link.tunnel.writeBuffer.reset⟩, []⟩
    ctx := client
    holder := .client
    clientErrors := Function.update t.clientErrors client t.didHaveHandshakingError
    written := [] }

/-! ## Steps -/

inductive Label
  /-- The session writes, or the socket is writable. -/
  | call (call : TunnelCall)
  | onHandshake (h : Handshake)
  | close (err : TunnelError)
  | onClose (s : ResponseState) (release : Release)
  | drainDerefs
  | detachOwner
  | adopt (client : Owner) (socket : TunnelSocket)
  /-- The client lets go of the tunnel, or the pool closes it. -/
  | detachAndDeref

/-- Who takes a step: the owner, the pool, or the HTTP thread. -/
def Label.takenBy (holder : Holder) : Label → Bool
  | call _ => decide (holder = .client)
  | onHandshake _ => decide (holder ≠ .nobody)
  | close _ => decide (holder = .client)
  | onClose _ _ => decide (holder ≠ .nobody)
  | drainDerefs => true
  | detachOwner => decide (holder = .client)
  | adopt _ _ => decide (holder = .pool)
  | detachAndDeref => decide (holder ≠ .nobody)

/-- What a step does. -/
def act (test : StreamBuffer.NotEmptyTest) (t : PooledTunnel) : Label → Option PooledTunnel
  | .call call => do
      let t ← t.access
      let link ← call.run test t.link
      some { t with link, written := t.written ++ call.data }
  | .onHandshake h => t.onHandshake rejectUnauthorized h
  | .close err => t.closeRaw err
  | .onClose s release => t.onClose rejectUnauthorized s release
  | .drainDerefs => t.drainDerefs
  | .detachOwner => t.detachOwner rejectUnauthorized
  | .adopt client socket => t.adopt client socket
  | .detachAndDeref => t.detachAndDeref

def step (test : StreamBuffer.NotEmptyTest) (t : PooledTunnel) (label : Label) :
    Option PooledTunnel :=
  if label.takenBy t.holder then act rejectUnauthorized test t label else none

end Source

/-! ## References -/

variable {rejectUnauthorized : Owner → Bool} {test : StreamBuffer.NotEmptyTest}
  {t t' : PooledTunnel} {label : Label} {extra : ℕ}

/-- The references that are known of: the owner's or the pool's, and those that are queued. -/
def references (t : PooledTunnel) : ℕ := t.queuedDerefs + if t.holder = .nobody then 0 else 1

/-- The tunnel counts its references, and is freed with the last one. -/
structure Counted (t : PooledTunnel) (extra : ℕ) : Prop where
  refCount : t.refCount = t.references + extra
  freed : t.freed = if t.refCount = 0 then 1 else 0

/-- What the owners of a tunnel know and have written. -/
structure Apart (rejectUnauthorized : Owner → Bool) (t : PooledTunnel) : Prop where
  inBounds : t.link.InBounds
  stream : t.link.stream.log = t.written
  sessions : ∀ s ∈ t.sessions, s.accepted <+: s.written
  ownerFlag : t.holder = .client → ∀ error ∈ t.verdict, t.clientErrors t.ctx = error
  poolFlag : t.holder = .pool → ∀ error ∈ t.verdict, t.didHaveHandshakingError = error
  established : t.establishedWithRejectUnauthorized =
    t.sessions.any fun s => rejectUnauthorized s.client

/-- The invariant of a tunnel, with the references that the running call has. -/
structure Kept (rejectUnauthorized : Owner → Bool) (t : PooledTunnel) (extra : ℕ) :
    Prop where
  apart : t.Apart rejectUnauthorized
  counted : t.Counted extra

/-- The references, the socket and the log say nothing of the owners. -/
lemma Apart.update (h : t.Apart rejectUnauthorized) (socket : TunnelSocket) (err : TunnelError)
    (refCount queuedDerefs freed : ℕ) (log : List Event) :
    ({ t with
      link.tunnel.socket := socket
      shutdownErr := err
      refCount
      queuedDerefs
      freed
      log } : PooledTunnel).Apart rejectUnauthorized :=
  ⟨h.inBounds, h.stream, h.sessions, h.ownerFlag, h.poolFlag, h.established⟩

/-- While somebody has a reference, the tunnel is not freed. -/
lemma Counted.freed_eq_zero (h : t.Counted extra) (hpos : 0 < t.references + extra) :
    t.freed = 0 := by
  rw [h.freed, h.refCount, if_neg (by omega)]

/-- The owner and the pool have a reference. -/
lemma references_pos (h : t.holder ≠ .nobody) : 0 < t.references := by
  rw [references, if_neg h]
  exact Nat.succ_pos _

/-- Who has a reference uses a tunnel that is not freed. -/
lemma Kept.access (h : t.Kept rejectUnauthorized extra) (hpos : 0 < t.references + extra) :
    t.access = some t :=
  if_pos (h.counted.freed_eq_zero hpos)

/-- A reference beyond those that are known of is given back. -/
lemma Kept.deref (h : t.Kept rejectUnauthorized (extra + 1)) :
    ∃ t', t.deref = some t' ∧ t'.Kept rejectUnauthorized extra := by
  have haccess := h.access (by omega)
  obtain ⟨hapart, hcounted⟩ := h
  have hzero : t.freed = 0 := hcounted.freed_eq_zero (by omega)
  have hpos : t.refCount = (t.references + extra) + 1 := hcounted.refCount
  refine ⟨{ t with
    refCount := t.references + extra
    freed := if t.references + extra = 0 then t.freed + 1 else t.freed }, ?_, ⟨?_, ?_, ?_⟩⟩
  · rw [PooledTunnel.deref, haccess, Option.bind_eq_bind, Option.bind_some, hpos]
  · exact hapart.update ..
  · rfl
  · rw [hzero]

/-- A call takes a reference. -/
lemma Kept.ref (h : t.Kept rejectUnauthorized extra) (hholder : t.holder ≠ .nobody) :
    ({ t with refCount := t.refCount + 1 } : PooledTunnel).Kept rejectUnauthorized
      (extra + 1) := by
  obtain ⟨hapart, hcounted⟩ := h
  refine ⟨hapart.update .., ?_, ?_⟩
  · show t.refCount + 1 = t.references + (extra + 1)
    rw [hcounted.refCount, Nat.add_assoc]
  · exact hcounted.freed_eq_zero (Nat.add_pos_left (references_pos hholder) _)

/-- The reference of the call is queued. -/
lemma Kept.scheduleProxyDeref (h : t.Kept rejectUnauthorized 1) :
    t.scheduleProxyDeref.Kept rejectUnauthorized 0 := by
  obtain ⟨hapart, hcounted⟩ := h
  refine ⟨hapart.update .., ?_, hcounted.freed⟩
  have hcount := hcounted.refCount
  show t.refCount = t.queuedDerefs + 1 + (if t.holder = .nobody then 0 else 1) + 0
  rw [references] at hcount
  omega

lemma Kept.detachSocket (h : t.Kept rejectUnauthorized extra) (hpos : 0 < t.references + extra) :
    ∃ t', t.detachSocket = some t' ∧ t'.Kept rejectUnauthorized extra ∧ t'.holder = t.holder := by
  refine ⟨{ t with link.tunnel.socket := .none }, ?_,
    ⟨h.apart.update .., h.counted.refCount, h.counted.freed⟩, rfl⟩
  rw [PooledTunnel.detachSocket, h.access hpos]
  rfl

/-- Whoever has the reference gives it back. -/
lemma Kept.detachAndDeref (h : t.Kept rejectUnauthorized extra) (hholder : t.holder ≠ .nobody) :
    ∃ t', t.detachAndDeref = some t' ∧ t'.Kept rejectUnauthorized extra := by
  obtain ⟨mid, hmid, ⟨hapart, hcounted⟩, hsame⟩ :=
    h.detachSocket (Nat.add_pos_left (references_pos hholder) _)
  have hgiven : ({ mid with holder := .nobody } : PooledTunnel).Kept rejectUnauthorized
      (extra + 1) := by
    refine ⟨?_, ?_, hcounted.freed⟩
    · exact ⟨hapart.inBounds, hapart.stream, hapart.sessions, nofun, nofun, hapart.established⟩
    · have hcount := hcounted.refCount
      simp only [references, hsame, if_neg hholder, if_true] at hcount ⊢
      omega
  obtain ⟨t', hderef, hkept⟩ := hgiven.deref
  refine ⟨t', ?_, hkept⟩
  rw [PooledTunnel.detachAndDeref, hmid]
  exact hderef

/-- The owner's session ends, and the pool knows what the owner knew. -/
lemma Kept.detachOwner (h : t.Kept rejectUnauthorized extra) (hholder : t.holder = .client) :
    ∃ t', t.detachOwner rejectUnauthorized = some t' ∧ t'.Kept rejectUnauthorized extra := by
  have haccess := h.access
    (Nat.add_pos_left (references_pos (hholder ▸ Holder.noConfusion)) _)
  obtain ⟨hapart, hcounted⟩ := h
  refine ⟨_, (congrArg (Option.bind · _) haccess).trans rfl,
    ⟨hapart.inBounds, hapart.stream, fun s hs => ?_, nofun,
      fun _ => hapart.ownerFlag hholder, ?_⟩, ?_, hcounted.freed⟩
  · rcases List.mem_append.mp hs with hold | hnew
    · exact hapart.sessions s hold
    · obtain rfl := List.mem_singleton.mp hnew
      show t.link.accepted <+: t.written
      rw [← hapart.stream]
      exact List.prefix_append ..
  · show (t.establishedWithRejectUnauthorized || rejectUnauthorized t.ctx) =
      (t.sessions ++ [(⟨t.ctx, t.written, t.link.accepted⟩ : Session)]).any
        fun s => rejectUnauthorized s.client
    rw [hapart.established, List.any_append, List.any_cons, List.any_nil, Bool.or_false]
  · have hcount := hcounted.refCount
    rw [references, hholder, if_neg Holder.noConfusion] at hcount
    exact hcount

/-- A call of the client keeps the invariant, whatever the client does with the tunnel. -/
lemma Kept.callClient (h : t.Kept rejectUnauthorized extra) (hholder : t.holder = .client)
    (event : Event) (release : Release) :
    ∃ t', t.callClient rejectUnauthorized event release = some t' ∧
      t'.Kept rejectUnauthorized extra := by
  have haccess := h.access
    (Nat.add_pos_left (references_pos (hholder ▸ Holder.noConfusion)) _)
  obtain ⟨hapart, hcounted⟩ := h
  have hlog : ({ t with log := t.log ++ [event] } : PooledTunnel).Kept rejectUnauthorized extra :=
    ⟨hapart.update .., hcounted.refCount, hcounted.freed⟩
  have hlet : ∃ t', letGo rejectUnauthorized release { t with log := t.log ++ [event] } =
      some t' ∧ t'.Kept rejectUnauthorized extra := by
    cases release with
    | keeps => exact ⟨_, rfl, hlog⟩
    | dereferences => exact hlog.detachAndDeref (hholder ▸ Holder.noConfusion)
    | pools => exact hlog.detachOwner hholder
  rw [PooledTunnel.callClient, haccess, Option.bind_eq_bind, Option.bind_some]
  cases t.link.tunnel.socket with
  | none => exact ⟨t, rfl, hapart, hcounted⟩
  | ssl => exact hlet
  | tcp => exact hlet

/-- `on_close` keeps the reference that it takes until `drain_events`, so that the tunnel is there
when its socket is cleared. -/
lemma Kept.onClose (h : t.Kept rejectUnauthorized 0) (s : ResponseState) (release : Release) :
    ∃ t', t.onClose rejectUnauthorized s release = some t' ∧ t'.Kept rejectUnauthorized 0 := by
  by_cases hholder : t.holder = .client
  · have hnobody : t.holder ≠ .nobody := hholder ▸ Holder.noConfusion
    have haccess := h.access (Nat.add_pos_left (references_pos hnobody) _)
    have href := h.ref hnobody
    rw [PooledTunnel.onClose, if_neg (not_not.mpr hholder), haccess, Option.bind_eq_bind,
      Option.bind_some]
    by_cases hends : endsResponse s = true
    · obtain ⟨mid, hmid, hkept⟩ := href.callClient hholder (.finished t.ctx) release
      refine ⟨mid.scheduleProxyDeref, ?_, hkept.scheduleProxyDeref⟩
      rw [if_pos hends]
      exact (congrArg (Option.bind · _) hmid).trans rfl
    · obtain ⟨mid, hmid, hkept⟩ :=
        href.callClient hholder (.failed t.ctx t.shutdownErr) release
      obtain ⟨detached, hdetached, hkept', -⟩ := hkept.detachSocket (Nat.succ_pos _)
      refine ⟨detached.scheduleProxyDeref, ?_, hkept'.scheduleProxyDeref⟩
      rw [if_neg hends]
      refine (congrArg (Option.bind · _) hmid).trans ?_
      exact (congrArg (Option.bind · _) hdetached).trans rfl
  · exact ⟨t, if_pos hholder, h⟩

/-- `drain_events` gives back the references that are queued. -/
lemma Kept.drainDerefs (h : t.Kept rejectUnauthorized 0) :
    ∃ t', t.drainDerefs = some t' ∧ t'.Kept rejectUnauthorized 0 := by
  have hloop : ∀ (queue : List ℕ) (t : PooledTunnel), t.Kept rejectUnauthorized queue.length →
      ∃ t', queue.foldlM (fun t _ => t.deref) t = some t' ∧ t'.Kept rejectUnauthorized 0 := by
    intro queue
    induction queue with
    | nil => exact fun t ht => ⟨t, rfl, ht⟩
    | cons _ queue ih =>
        intro t ht
        obtain ⟨mid, hmid, hkept⟩ : ∃ mid, t.deref = some mid ∧
            mid.Kept rejectUnauthorized queue.length := ht.deref
        obtain ⟨t', hrest, hkept'⟩ := ih mid hkept
        refine ⟨t', ?_, hkept'⟩
        rw [List.foldlM_cons, hmid]
        exact hrest
  obtain ⟨hapart, hcounted⟩ := h
  have hqueue : ({ t with queuedDerefs := 0 } : PooledTunnel).Kept rejectUnauthorized
      (List.range t.queuedDerefs).length := by
    refine ⟨hapart.update .., ?_, hcounted.freed⟩
    have hcount := hcounted.refCount
    rw [List.length_range]
    simp only [references] at hcount ⊢
    omega
  exact hloop _ _ hqueue

/-- The client that adopts a tunnel knows what the pool knew, and starts with an empty buffer. -/
lemma Kept.adopt (h : t.Kept rejectUnauthorized 0) (hholder : t.holder = .pool)
    (client : Owner) (socket : TunnelSocket) :
    ∃ t', t.adopt client socket = some t' ∧ t'.Kept rejectUnauthorized 0 := by
  have haccess := h.access
    (Nat.add_pos_left (references_pos (hholder ▸ Holder.noConfusion)) _)
  obtain ⟨hapart, hcounted⟩ := h
  refine ⟨_, (congrArg (Option.bind · _) haccess).trans rfl,
    ⟨StreamBuffer.inBounds_default, rfl, hapart.sessions, fun _ error herror => ?_, nofun,
      hapart.established⟩, ?_, hcounted.freed⟩
  · show Function.update t.clientErrors client t.didHaveHandshakingError client = error
    rw [Function.update_self]
    exact hapart.poolFlag hholder error herror
  · have hcount := hcounted.refCount
    rw [references, hholder, if_neg Holder.noConfusion] at hcount
    exact hcount

/-- What a call passes to `write_encrypted` is the session's. -/
lemma Kept.call (h : t.Kept rejectUnauthorized 0) (hholder : t.holder = .client)
    (call : TunnelCall) :
    ∃ t', act rejectUnauthorized test t (.call call) = some t' ∧
      t'.Kept rejectUnauthorized 0 := by
  have haccess := h.access
    (Nat.add_pos_left (references_pos (hholder ▸ Holder.noConfusion)) _)
  obtain ⟨hapart, hcounted⟩ := h
  obtain ⟨link, hrun, hbounds, hlog⟩ := call.run_spec test hapart.inBounds
  refine ⟨{ t with link, written := t.written ++ call.data }, ?_, ⟨hbounds, ?_, hapart.sessions,
    hapart.ownerFlag, hapart.poolFlag, hapart.established⟩, hcounted.refCount, hcounted.freed⟩
  · rw [act, haccess, Option.bind_eq_bind, Option.bind_some, hrun]
    rfl
  · rw [hlog, hapart.stream]

/-- Closing a tunnel says nothing of its owners. -/
lemma Kept.closeRaw (h : t.Kept rejectUnauthorized extra) (hpos : 0 < t.references + extra)
    (err : TunnelError) : ∃ t', t.closeRaw err = some t' ∧ t'.Kept rejectUnauthorized extra := by
  refine ⟨_, (congrArg (Option.bind · _) (h.access hpos)).trans rfl, ?_⟩
  exact ⟨h.apart.update .., h.counted.refCount, h.counted.freed⟩

lemma Kept.writeRequest (h : t.Kept rejectUnauthorized extra) (hpos : 0 < t.references + extra) :
    ∃ t', t.writeRequest = some t' ∧ t'.Kept rejectUnauthorized extra := by
  rw [PooledTunnel.writeRequest, h.access hpos, Option.bind_eq_bind, Option.bind_some]
  split
  · exact ⟨t, rfl, h⟩
  · exact ⟨_, rfl, h.apart.update .., h.counted.refCount, h.counted.freed⟩

/-- The owner's flag and the verdict change together. -/
lemma Kept.noteError (h : t.Kept rejectUnauthorized extra) (hholder : t.holder = .client)
    (errorNo : ℤ) : (t.noteError errorNo).Kept rejectUnauthorized extra := by
  refine ⟨⟨h.apart.inBounds, h.apart.stream, h.apart.sessions, fun _ error herror => ?_,
    fun hpool => absurd (hholder.symm.trans hpool) Holder.noConfusion, h.apart.established⟩,
    h.counted.refCount, h.counted.freed⟩
  obtain rfl := Option.some.inj herror
  exact Function.update_self ..

lemma Kept.onHandshakeSuccess (h : t.Kept rejectUnauthorized extra)
    (hpos : 0 < t.references + extra) (hs : Handshake) :
    ∃ t', t.onHandshakeSuccess rejectUnauthorized hs = some t' ∧
      t'.Kept rejectUnauthorized extra := by
  rw [PooledTunnel.onHandshakeSuccess, h.access hpos, Option.bind_eq_bind, Option.bind_some]
  split_ifs
  · exact h.closeRaw hpos _
  · exact ⟨t, rfl, h⟩
  · exact ⟨t, rfl, h⟩
  · exact h.writeRequest hpos
  · exact h.writeRequest hpos

/-- Whatever the handshake leads to, the invariant is kept. -/
lemma Kept.onHandshake (h : t.Kept rejectUnauthorized extra) (hs : Handshake) :
    ∃ t', t.onHandshake rejectUnauthorized hs = some t' ∧ t'.Kept rejectUnauthorized extra := by
  by_cases hholder : t.holder = .client
  · have hpos : 0 < t.references + extra :=
      Nat.add_pos_left (references_pos (hholder ▸ Holder.noConfusion)) _
    rw [PooledTunnel.onHandshake, if_neg (not_not.mpr hholder), h.access hpos,
      Option.bind_eq_bind, Option.bind_some]
    split_ifs
    · exact (h.noteError hholder _).onHandshakeSuccess hpos hs
    · exact h.closeRaw hpos _
    · exact h.closeRaw hpos _
  · exact ⟨t, if_pos hholder, h⟩

variable (test) in
/-- The step lemma: whoever has the tunnel can take its step, and the invariant is kept. -/
lemma Kept.step (h : t.Kept rejectUnauthorized 0) (htaken : label.takenBy t.holder = true) :
    ∃ t', PooledTunnel.step rejectUnauthorized test t label = some t' ∧
      t'.Kept rejectUnauthorized 0 := by
  rw [PooledTunnel.step, if_pos htaken]
  cases label with
  | call call => exact h.call (of_decide_eq_true htaken) call
  | onHandshake hs => exact h.onHandshake hs
  | close err =>
      have hholder : t.holder = .client := of_decide_eq_true htaken
      exact h.closeRaw (references_pos (hholder ▸ Holder.noConfusion)) err
  | onClose s release => exact h.onClose s release
  | drainDerefs => exact h.drainDerefs
  | detachOwner => exact h.detachOwner (of_decide_eq_true htaken)
  | adopt client socket => exact h.adopt (of_decide_eq_true htaken) client socket
  | detachAndDeref => exact h.detachAndDeref (of_decide_eq_true htaken)

/-- The run lemma. -/
lemma kept_of_run {labels : List Label} {client : Owner} {socket : TunnelSocket}
    {clientErrors : Owner → Bool}
    (hrun : labels.foldlM (PooledTunnel.step rejectUnauthorized test)
      (start client socket clientErrors) = some t) :
    t.Kept rejectUnauthorized 0 := by
  refine invariant_of_run (I := fun t => t.Kept rejectUnauthorized 0) ?_
    (run_of_foldlM labels hrun) ?_
  · rintro s s' hs ⟨label, hstep⟩
    have htaken : label.takenBy s.holder = true := by
      by_contra hnot
      rw [PooledTunnel.step, if_neg hnot] at hstep
      exact Option.some_ne_none _ hstep.symm
    obtain ⟨s'', hstep', hkept⟩ := hs.step test htaken
    obtain rfl := Option.some.inj (hstep'.symm.trans hstep)
    exact hkept
  · exact ⟨⟨StreamBuffer.inBounds_default, rfl, nofun, fun _ => nofun, fun _ => nofun, rfl⟩, rfl,
      rfl⟩

/-! ## Main results -/

variable {labels : List Label} {client : Owner} {socket : TunnelSocket}
  {clientErrors : Owner → Bool}

/-- **The sessions of a tunnel are kept apart.**  Wherever a run of its owners, of the pool and of
the HTTP thread has left a tunnel, the socket of each earlier owner has accepted the beginning of
what that owner wrote, and the socket of the present one with what is still to be sent is all
that the present one wrote.  Who has the tunnel knows whether the last handshake that succeeded
found an error, and the tunnel knows whether an earlier owner rejected the unauthorized. -/
theorem sessions_kept_apart
    (hrun : labels.foldlM (PooledTunnel.step rejectUnauthorized test)
      (start client socket clientErrors) = some t) :
    (∀ s ∈ t.sessions, s.accepted <+: s.written) ∧
      t.link.accepted ++ t.link.tunnel.writeBuffer.slice = t.written ∧
      (∀ error ∈ t.verdict, (t.holder = .client → t.clientErrors t.ctx = error) ∧
        (t.holder = .pool → t.didHaveHandshakingError = error)) ∧
      t.establishedWithRejectUnauthorized =
        t.sessions.any fun s => rejectUnauthorized s.client := by
  have hapart := (kept_of_run hrun).apart
  refine ⟨hapart.sessions, hapart.stream, fun error herror => ⟨fun h => ?_, fun h => ?_⟩,
    hapart.established⟩
  · exact hapart.ownerFlag h error herror
  · exact hapart.poolFlag h error herror

/-- A client that rejects the unauthorized leaves its tunnel with bytes unsent, and another adopts
it, whose connection is closed before its response has come: the client lets go of the tunnel, then
`on_close` clears the socket.  At last `drain_events` runs. -/
def twoOwners : Option PooledTunnel :=
  [.onHandshake ⟨true, 0, true, true⟩, .call (.writeEncrypted [1, 2, 3] (.upTo 2)), .detachOwner,
    .adopt 2 .tcp, .call (.writeEncrypted [4, 5] (.upTo 1)),
    .onClose ⟨false, false, false, 0, false, false⟩ .dereferences, .drainDerefs].foldlM
    (PooledTunnel.step (· == 1) .ofList) (start 1 .ssl fun _ => false)

theorem sessions_kept_apart_twoOwners :
    ∃ t, twoOwners = some t ∧
      (∀ s ∈ t.sessions, s.accepted <+: s.written) ∧
      t.link.accepted ++ t.link.tunnel.writeBuffer.slice = t.written ∧
      (∀ error ∈ t.verdict, (t.holder = .client → t.clientErrors t.ctx = error) ∧
        (t.holder = .pool → t.didHaveHandshakingError = error)) ∧
      t.establishedWithRejectUnauthorized = t.sessions.any fun s => s.client == 1 := by
  obtain ⟨t, hrun⟩ : ∃ t, twoOwners = some t := ⟨_, rfl⟩
  exact ⟨t, hrun, sessions_kept_apart hrun⟩

/-- **A tunnel is freed once, by whoever lets go of it last.**  Wherever a run has left a tunnel,
whoever has it can take any step of theirs without reading or writing it after it was freed; it
counts the references that are left, and it has been freed, once, when the owner or the pool has let
go of it and `drain_events` has caught up. -/
theorem tunnel_freed_once
    (hrun : labels.foldlM (PooledTunnel.step rejectUnauthorized test)
      (start client socket clientErrors) = some t) :
    (∀ label : Label, label.takenBy t.holder = true →
      (PooledTunnel.step rejectUnauthorized test t label).isSome) ∧
      t.refCount = t.queuedDerefs + (if t.holder = .nobody then 0 else 1) ∧
      t.freed = if t.holder = .nobody ∧ t.queuedDerefs = 0 then 1 else 0 := by
  have hkept := kept_of_run hrun
  refine ⟨fun label htaken => ?_, hkept.counted.refCount, ?_⟩
  · obtain ⟨t', hstep, -⟩ := hkept.step test htaken
    rw [hstep]
    rfl
  · have hcount : t.refCount = t.queuedDerefs + (if t.holder = .nobody then 0 else 1) :=
      hkept.counted.refCount
    rw [hkept.counted.freed]
    apply if_congr _ rfl rfl
    split at hcount
    · next hholder => simp [hholder, hcount]
    · next hholder => simp [hholder, hcount]

theorem tunnel_freed_once_twoOwners :
    twoOwners.map PooledTunnel.freed = some 1 ∧ ∃ t, twoOwners = some t ∧
      (∀ label : Label, label.takenBy t.holder = true →
        (PooledTunnel.step (· == 1) .ofList t label).isSome) ∧
      t.refCount = t.queuedDerefs + (if t.holder = .nobody then 0 else 1) ∧
      t.freed = if t.holder = .nobody ∧ t.queuedDerefs = 0 then 1 else 0 := by
  obtain ⟨t, hrun⟩ : ∃ t, twoOwners = some t := ⟨_, rfl⟩
  exact ⟨rfl, t, hrun, tunnel_freed_once hrun⟩

end PooledTunnel

end TorOnion
