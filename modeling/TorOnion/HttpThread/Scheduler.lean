import Mathlib.Data.List.Perm.Basic
import Mathlib.Data.List.Nodup
import Mathlib.Tactic
import TorOnion.Library.Runs

/-!
# The request scheduler of `http_thread.rs`

Requests wait in `queued_tasks`, where any thread pushes them, and in `deferred_tasks`, where
`drain_events` puts those it may not start yet.  `drain_events` starts what waits while fewer than
`MAX_SIMULTANEOUS_REQUESTS` requests are active; a request whose `Aborted` signal is set is
started in any case, so that it can fail.  As a full thread has nothing to start,
`drain_events` returns early then, unless a shutdown message was drained whose request could not
be found: it may be one that waits.

A `Scheduler` is this part of the thread, with the log of what was done, oldest event first.  The
threads that schedule and abort, the requests that complete, and the HTTP thread that drains take
their steps in any order; a drain is one step.  What the rest of the thread does during a drain is
in the label: where each shutdown message finds its request, how many requests complete meanwhile,
and which of the requests that are started finish at once.  A request that waits is not known to
the abort tracker, to the HTTP/2 waiters or to HTTP/3, so its message finds nothing.
-/

namespace TorOnion

/-- A request, an `AsyncHttp`. -/
abbrev AsyncHttp := ℕ

namespace Scheduler

/-- What can be seen of a run. -/
inductive Event
  /-- `queued_tasks` gets a request. -/
  | scheduled (http : AsyncHttp)
  /-- The signal of a request is set. -/
  | aborted (http : AsyncHttp)
  /-- `schedule_shutdown` is called. -/
  | shutdownScheduled (http : AsyncHttp)
  /-- A request is started, with its signal and with the number of active requests before. -/
  | started (http : AsyncHttp) (aborted : Bool) (active : ℕ)
  /-- `drain_events` returns. -/
  | drained
  deriving DecidableEq

/-- Where `drain_queued_shutdowns` finds the request of a message. -/
inductive ShutdownTarget
  | abortTracker
  | h2Waiter
  | h3
  | notFound
  deriving DecidableEq

/-- What the rest of the thread does during `drain_events`: where the messages, by position, find
their requests, how many requests complete before the active ones are counted, and which requests
finish while they are started. -/
structure DrainAnswers where
  target : ℕ → ShutdownTarget := fun _ => .notFound
  completions : ℕ := 0
  finishes : AsyncHttp → Bool := fun _ => false

end Scheduler

/-- The fields of `HttpThread` that schedule requests, with `ACTIVE_REQUESTS_COUNT`, the requests
whose signal is set, and the log. -/
structure Scheduler where
  queuedTasks : List AsyncHttp := []
  deferredTasks : List AsyncHttp := []
  hasPendingQueuedAbort : Bool := false
  queuedShutdowns : List UInt32 := []
  activeRequestsCount : ℕ := 0
  aborted : List AsyncHttp := []
  log : List Scheduler.Event := []

namespace Scheduler

/-! ## Reading a log -/

/-- The request of a `scheduled` event. -/
def Event.scheduled? : Event → Option AsyncHttp
  | .scheduled http => some http
  | _ => none

/-- The request of a `started` event. -/
def Event.started? : Event → Option AsyncHttp
  | .started http _ _ => some http
  | _ => none

/-- The request of a `started` event without the signal. -/
def Event.startedUnaborted? : Event → Option AsyncHttp
  | .started http false _ => some http
  | _ => none

/-- The requests that were scheduled, in order. -/
def scheduled (log : List Event) : List AsyncHttp := log.filterMap Event.scheduled?

/-- The requests that were started, in order. -/
def started (log : List Event) : List AsyncHttp := log.filterMap Event.started?

/-- The requests that were started without having been aborted, in order. -/
def startedUnaborted (log : List Event) : List AsyncHttp :=
  log.filterMap Event.startedUnaborted?

/-! ## The functions of the source -/

/-- The requests that wait. -/
def waiting (s : Scheduler) : List AsyncHttp := s.deferredTasks ++ s.queuedTasks

/-- `drain_queued_shutdowns`. -/
def drainQueuedShutdowns (target : ℕ → ShutdownTarget) (s : Scheduler) : Scheduler :=
  { s with
    queuedShutdowns := []
    hasPendingQueuedAbort := s.hasPendingQueuedAbort ||
      (List.range s.queuedShutdowns.length).any fun i => target i = .notFound }

/-- `start_queued_task`: `on_start` counts the request as active, and the callback of a request
that finishes at once takes it back.  Aborted requests do. -/
def startQueuedTask (finishes : AsyncHttp → Bool) (http : AsyncHttp) (s : Scheduler) : Scheduler :=
  let aborted := decide (http ∈ s.aborted)
  let active := s.activeRequestsCount + 1
  { s with
    activeRequestsCount := if aborted || finishes http then active - 1 else active
    log := s.log ++ [.started http aborted s.activeRequestsCount] }

/-- The body of both loops of `drain_events`. -/
def startOrDefer (max : ℕ) (finishes : AsyncHttp → Bool) (s : Scheduler) (http : AsyncHttp) :
    Scheduler :=
  if http ∈ s.aborted ∨ s.activeRequestsCount < max then s.startQueuedTask finishes http
  else { s with deferredTasks := s.deferredTasks ++ [http] }

/-- `drain_events` after its early return: the loop over `deferred_tasks`, then the loop that pops
`queued_tasks`. -/
def startWaiting (max : ℕ) (finishes : AsyncHttp → Bool) (s : Scheduler) : Scheduler :=
  let s := { s with hasPendingQueuedAbort := false }
  let s := s.deferredTasks.foldl (startOrDefer max finishes) { s with deferredTasks := [] }
  s.queuedTasks.foldl (startOrDefer max finishes) { s with queuedTasks := [] }

/-- `drain_events` up to its early return. -/
def beforeStarts (answers : DrainAnswers) (s : Scheduler) : Scheduler :=
  let s := s.drainQueuedShutdowns answers.target
  { s with activeRequestsCount := s.activeRequestsCount - answers.completions }

/-- Records that `drain_events` returns. -/
def logDrained (s : Scheduler) : Scheduler := { s with log := s.log ++ [.drained] }

/-- `drain_events`. -/
def drainEvents (max : ℕ) (answers : DrainAnswers) (s : Scheduler) : Scheduler :=
  let s := s.beforeStarts answers
  (if s.activeRequestsCount ≥ max ∧ s.hasPendingQueuedAbort = false then s
    else s.startWaiting max answers.finishes).logDrained

/-! ## Steps -/

section Steps

variable (max : ℕ) (asyncHttpId : AsyncHttp → UInt32)

/-- A drain can go this way: only active requests complete, and the message of a request that
waits finds nothing. -/
def CanDrain (answers : DrainAnswers) (s : Scheduler) : Prop :=
  answers.completions ≤ s.activeRequestsCount ∧
    ∀ i ∈ List.range s.queuedShutdowns.length, ∀ http ∈ s.waiting,
      s.queuedShutdowns[i]? = some (asyncHttpId http) → answers.target i = .notFound

instance (answers : DrainAnswers) (s : Scheduler) :
    Decidable (CanDrain asyncHttpId answers s) := by
  unfold CanDrain
  infer_instance

/-- The steps of a run.  `schedule` takes a batch; its requests are pushed one by one. -/
inductive Label
  | schedule (http : AsyncHttp)
  | abort (http : AsyncHttp)
  | scheduleShutdown (http : AsyncHttp)
  /-- An active request completes. -/
  | complete
  | drainEvents (answers : DrainAnswers)

/-- One step.  A request is scheduled once. -/
def step (s : Scheduler) : Label → Option Scheduler
  | .schedule http =>
      if http ∈ scheduled s.log then none
      else some { s with
        queuedTasks := s.queuedTasks ++ [http]
        log := s.log ++ [.scheduled http] }
  | .abort http =>
      some { s with
        aborted := http :: s.aborted
        log := s.log ++ [.aborted http] }
  | .scheduleShutdown http =>
      some { s with
        queuedShutdowns := s.queuedShutdowns ++ [asyncHttpId http]
        log := s.log ++ [.shutdownScheduled http] }
  | .complete =>
      if 0 < s.activeRequestsCount then
        some { s with activeRequestsCount := s.activeRequestsCount - 1 }
      else none
  | .drainEvents answers =>
      if CanDrain asyncHttpId answers s then some (s.drainEvents max answers) else none

/-- The schedulers that runs arrive at. -/
def Reachable (s : Scheduler) : Prop :=
  Relation.ReflTransGen (fun s s' => ∃ label, step max asyncHttpId s label = some s') {} s

end Steps

/-! ## Small lemmas -/

section Logs

variable (log new : List Event)

@[simp] lemma scheduled_append : scheduled (log ++ new) = scheduled log ++ scheduled new :=
  List.filterMap_append

@[simp] lemma started_append : started (log ++ new) = started log ++ started new :=
  List.filterMap_append

@[simp] lemma startedUnaborted_append :
    startedUnaborted (log ++ new) = startedUnaborted log ++ startedUnaborted new :=
  List.filterMap_append

end Logs

section Logs

variable {log : List Event} {http : AsyncHttp}

lemma mem_scheduled : http ∈ scheduled log ↔ .scheduled http ∈ log := by
  simp only [scheduled, List.mem_filterMap]
  constructor
  · rintro ⟨event, hmem, hevent⟩
    cases event <;> simp only [Event.scheduled?, reduceCtorEq, Option.some.injEq] at hevent
    exact hevent ▸ hmem
  · exact fun h => ⟨_, h, rfl⟩

end Logs

variable {max : ℕ} {finishes : AsyncHttp → Bool} {s : Scheduler} {http : AsyncHttp}

@[simp] lemma scheduled_startQueuedTask :
    scheduled (s.startQueuedTask finishes http).log = scheduled s.log :=
  (scheduled_append _ _).trans (List.append_nil _)

@[simp] lemma started_startQueuedTask :
    started (s.startQueuedTask finishes http).log = started s.log ++ [http] :=
  started_append _ _

lemma startedUnaborted_startQueuedTask :
    startedUnaborted (s.startQueuedTask finishes http).log =
      startedUnaborted s.log ++ if http ∈ s.aborted then [] else [http] := by
  refine (startedUnaborted_append _ _).trans (congrArg _ ?_)
  by_cases h : http ∈ s.aborted <;> simp [h, startedUnaborted, Event.startedUnaborted?]

/-- A request that is started without its signal becomes active at most once; one with its signal
does not. -/
lemma startQueuedTask_active (finishes : AsyncHttp → Bool) (http : AsyncHttp) (s : Scheduler) :
    s.activeRequestsCount ≤
      (s.startQueuedTask finishes http).activeRequestsCount ∧
    (s.startQueuedTask finishes http).activeRequestsCount ≤ s.activeRequestsCount + 1 ∧
    (http ∈ s.aborted →
      (s.startQueuedTask finishes http).activeRequestsCount = s.activeRequestsCount) := by
  unfold startQueuedTask
  by_cases h : (decide (http ∈ s.aborted) || finishes http) = true
  · simp [h]
  · simp_all

end Scheduler

end TorOnion
