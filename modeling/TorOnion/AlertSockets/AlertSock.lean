import TorOnion.AlertSockets.Kernel

/-!
# Alert sockets: `networking/lib/alertsock.c`

One thread wakes another up by making a descriptor readable: `alert_fn` writes to one descriptor,
`drain_fn` reads from another until there is nothing left.  `alert_sockets_create` takes the first
of an eventfd, a pipe and a pair of sockets that works.

The system calls of a call are served by a list of events, from its front; what is left over serves
the next call.  A call that the events do not complete has no result.  What the build has found out
and the bits of `flags` are `AlertConfig`; `tor_socket_errno` is `errno`, as it is outside Windows.
-/

namespace TorOnion

/-- The values that `alert_fn` takes. -/
inductive AlertFn
  | eventfdAlert
  | pipeAlert
  | sockAlert
  deriving DecidableEq

/-- The values that `drain_fn` takes. -/
inductive DrainFn
  | eventfdDrain
  | pipeDrain
  | sockDrain
  deriving DecidableEq

/-- `alert_sockets_t`. -/
structure AlertSockets where
  readFd : ℤ
  writeFd : ℤ
  alertFn : AlertFn
  drainFn : DrainFn
  deriving DecidableEq

/-- What the build has found, and the bits of `flags`. -/
structure AlertConfig where
  /-- `HAVE_EVENTFD`. -/
  haveEventfd : Bool
  /-- `EFD_CLOEXEC` and `EFD_NONBLOCK` are defined. -/
  haveEfdFlags : Bool
  havePipe2 : Bool
  havePipe : Bool
  /-- `tor_socketpair`, which is not in the repository, makes its descriptors close on `exec`. -/
  socketpairCloseOnExec : Bool
  asocksNoeventfd2 : UInt32
  asocksNoeventfd : UInt32
  asocksNopipe2 : UInt32
  asocksNopipe : UInt32
  asocksNosocketpair : UInt32

namespace AlertSockets

open Kernel

variable (names : Errnos)

/-- What a call leaves: its result, the events that are left over, and the kernel. -/
abbrev Returned := ℤ × List (KernelEvent names) × Kernel

/-! ## System calls that are not interrupted -/

/-- The loop of the four functions below. -/
def again (call : KernelEvent names → Kernel → Option (ℤ × Kernel)) :
    List (KernelEvent names) → Kernel → Option (Returned names)
  | [], _ => none
  | event :: events, k => do
      let (r, k) ← call event k
      if r < 0 then
        if k.errno = names.eintr then again call events k else some (-k.errno, events, k)
      else some (r, events, k)

/-- `write_ni`. -/
def writeNi (fd : ℤ) (buf : List UInt8) :
    List (KernelEvent names) → Kernel → Option (Returned names) :=
  again names (write names fd buf)

/-- `read_ni`. -/
def readNi (fd : ℤ) (n : ℕ) : List (KernelEvent names) → Kernel → Option (Returned names) :=
  again names (read names fd n)

/-- `send_ni`, without flags. -/
def sendNi (fd : ℤ) (buf : List UInt8) :
    List (KernelEvent names) → Kernel → Option (Returned names) :=
  again names (write names fd buf)

/-- `recv_ni`, without flags. -/
def recvNi (fd : ℤ) (n : ℕ) : List (KernelEvent names) → Kernel → Option (Returned names) :=
  again names (read names fd n)

/-! ## Alerting and draining -/

/-- `ERRNO_IS_EAGAIN`. -/
def errnoIsEagain (e : ℤ) : Prop := e = names.eagain ∨ e = names.ewouldblock

instance (e : ℤ) : Decidable (errnoIsEagain names e) := inferInstanceAs (Decidable (_ ∨ _))

/-- `"x"`, the byte that an alert sends. -/
def alertByte : List UInt8 := [120]

/-- `eventfd_alert`. -/
def eventfdAlert (fd : ℤ) (events : List (KernelEvent names)) (k : Kernel) :
    Option (Returned names) := do
  let (r, events, k) ← writeNi names fd (uint64Bytes 1) events k
  if r < 0 ∧ -r ≠ names.eagain then some (-1, events, k) else some (0, events, k)

/-- `eventfd_drain`. -/
def eventfdDrain (fd : ℤ) (events : List (KernelEvent names)) (k : Kernel) :
    Option (Returned names) := do
  let (r, events, k) ← readNi names fd 8 events k
  if r < 0 ∧ -r ≠ names.eagain then some (r, events, k) else some (0, events, k)

/-- `pipe_alert`. -/
def pipeAlert (fd : ℤ) (events : List (KernelEvent names)) (k : Kernel) :
    Option (Returned names) := do
  let (r, events, k) ← writeNi names fd alertByte events k
  if r < 0 ∧ -r ≠ names.eagain then some (r, events, k) else some (0, events, k)

/-- `do { r = read(); } while (r > 0);`.  Every round takes an event, so there are at most as many
rounds as events. -/
def drainLoop (read : List (KernelEvent names) → Kernel → Option (Returned names)) :
    ℕ → List (KernelEvent names) → Kernel → Option (Returned names)
  | 0, _, _ => none
  | rounds + 1, events, k => do
      let (r, events, k) ← read events k
      if r > 0 then drainLoop read rounds events k else some (r, events, k)

/-- `pipe_drain`. -/
def pipeDrain (fd : ℤ) (events : List (KernelEvent names)) (k : Kernel) :
    Option (Returned names) := do
  let (r, events, k) ← drainLoop names (readNi names fd 32) events.length events k
  if r < 0 ∧ k.errno ≠ names.eagain then some (-k.errno, events, k) else some (0, events, k)

/-- `sock_alert`. -/
def sockAlert (fd : ℤ) (events : List (KernelEvent names)) (k : Kernel) :
    Option (Returned names) := do
  let (r, events, k) ← sendNi names fd alertByte events k
  if r < 0 ∧ ¬ errnoIsEagain names (-r) then some (r, events, k) else some (0, events, k)

/-- `sock_drain`. -/
def sockDrain (fd : ℤ) (events : List (KernelEvent names)) (k : Kernel) :
    Option (Returned names) := do
  let (r, events, k) ← drainLoop names (recvNi names fd 32) events.length events k
  if r < 0 ∧ ¬ errnoIsEagain names (-r) then some (r, events, k) else some (0, events, k)

/-- `socks->alert_fn(socks->write_fd)`. -/
def alert (socks : AlertSockets) : List (KernelEvent names) → Kernel → Option (Returned names) :=
  match socks.alertFn with
  | .eventfdAlert => eventfdAlert names socks.writeFd
  | .pipeAlert => pipeAlert names socks.writeFd
  | .sockAlert => sockAlert names socks.writeFd

/-- `socks->drain_fn(socks->read_fd)`. -/
def drain (socks : AlertSockets) : List (KernelEvent names) → Kernel → Option (Returned names) :=
  match socks.drainFn with
  | .eventfdDrain => eventfdDrain names socks.readFd
  | .pipeDrain => pipeDrain names socks.readFd
  | .sockDrain => sockDrain names socks.readFd

/-! ## Creating -/

/-- What `alert_sockets_create` returns, what it stores, and the kernel. -/
abbrev Created := ℤ × Option AlertSockets × Kernel

/-- The calls that make descriptors close on `exec` and non-blocking. -/
def prepare (setup : Setup) (fds : List ℤ) (k : Kernel) : Option Kernel :=
  if fds.all setup.fcntlCloexec ∧ fds.all setup.setSocketNonblocking then
    some (setFiles fds (fun file => { file with closeOnExec := true, nonblocking := true }) k)
  else none

/-- The eventfd of `alert_sockets_create`: it returns, or it goes on. -/
def tryEventfd (config : AlertConfig) (setup : Setup) (flags : UInt32) (k : Kernel) :
    Except Created Kernel :=
  let usable (fd : ℤ) (k : Kernel) : Created :=
    (0, some ⟨fd, fd, .eventfdAlert, .eventfdDrain⟩, k)
  if config.haveEventfd then
    if config.haveEfdFlags ∧ flags &&& config.asocksNoeventfd2 = 0 ∧ setup.eventfdNonblocking then
      let (fd, k) := newEventfd true true k
      .error (usable fd k)
    else if flags &&& config.asocksNoeventfd = 0 ∧ setup.eventfd then
      let (fd, k) := newEventfd false false k
      match prepare setup [fd] k with
      | none => .error (-1, none, close fd k)
      | some k => .error (usable fd k)
    else .ok k
  else .ok k

/-- The pipe that is created with its flags. -/
def tryPipe2 (config : AlertConfig) (setup : Setup) (flags : UInt32) (k : Kernel) :
    Except Created Kernel :=
  if config.havePipe2 ∧ flags &&& config.asocksNopipe2 = 0 ∧ setup.pipe2 then
    let (socks, k) := newPipe setup true true k
    .error (0, some ⟨socks.1, socks.2, .pipeAlert, .pipeDrain⟩, k)
  else .ok k

/-- The pipe whose ends are prepared. -/
def tryPipe (config : AlertConfig) (setup : Setup) (flags : UInt32) (k : Kernel) :
    Except Created Kernel :=
  if config.havePipe ∧ flags &&& config.asocksNopipe = 0 ∧ setup.pipe then
    let (socks, k) := newPipe setup false false k
    match prepare setup [socks.1, socks.2] k with
    | none => .error (-1, none, close socks.2 (close socks.1 k))
    | some k => .error (0, some ⟨socks.1, socks.2, .pipeAlert, .pipeDrain⟩, k)
  else .ok k

/-- The pair of sockets, whose ends are made non-blocking only. -/
def trySocketpair (config : AlertConfig) (setup : Setup) (flags : UInt32) (k : Kernel) :
    Except Created Kernel :=
  if flags &&& config.asocksNosocketpair = 0 ∧ setup.socketpair then
    let (socks, k) := newSocketpair setup config.socketpairCloseOnExec k
    if setup.setSocketNonblocking socks.1 ∧ setup.setSocketNonblocking socks.2 then
      .error (0, some ⟨socks.1, socks.2, .sockAlert, .sockDrain⟩,
        setFiles [socks.1, socks.2] (fun file => { file with nonblocking := true }) k)
    else .error (-1, none, close socks.2 (close socks.1 k))
  else .ok k

/-- `alert_sockets_create`. -/
def alertSocketsCreate (config : AlertConfig) (setup : Setup) (flags : UInt32) (k : Kernel) :
    Created :=
  let tried := do
    let k ← tryEventfd config setup flags k
    let k ← tryPipe2 config setup flags k
    let k ← tryPipe config setup flags k
    trySocketpair config setup flags k
  match tried with
  | .error created => created
  | .ok k => (-1, none, k)

/-! ## Calls one after the other -/

/-- A call of one of the two function pointers. -/
inductive AlertCall
  | alert
  | drain
  deriving DecidableEq

/-- A call through its function pointer. -/
def perform (socks : AlertSockets) :
    AlertCall → List (KernelEvent names) → Kernel → Option (Returned names)
  | .alert => alert names socks
  | .drain => drain names socks

/-- What the calls so far have returned, oldest first, what is left of the events, and the
kernel. -/
structure AlertRun where
  results : List (AlertCall × ℤ)
  events : List (KernelEvent names)
  kernel : Kernel

/-- One complete call. -/
def callStep (socks : AlertSockets) (run : AlertRun names) (call : AlertCall) :
    Option (AlertRun names) := do
  let (r, events, kernel) ← perform names socks call run.events run.kernel
  some ⟨run.results ++ [(call, r)], events, kernel⟩

end AlertSockets

end TorOnion
