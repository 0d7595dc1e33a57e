import Mathlib.Algebra.BigOperators.Group.Finset.Basic
import Mathlib.Algebra.Order.BigOperators.Group.Finset
import Mathlib.Data.Fintype.Basic
import Mathlib.Tactic
import TorOnion.Library.Containers
import TorOnion.Library.Runs

/-!
# The message queues of `http_thread.rs`

Other threads tell the HTTP thread to drain a response body, to write a piece of a request, or to
shut a request down, by pushing a message to one of three queues and waking the thread up.  The
thread drains the queues one after the other at the start of each pass of its loop, each until it
finds it empty, and then parks in `tick`.

A message may arrive in a queue that the pass is done with, and a producer does not wake a thread
that has not stored `has_awoken` yet.  No message is left behind all the same: a message in a
queue the pass is done with has a producer that is still to wake the thread, or a wake-up that is
pending (`Inv.signalled`), and before the store no pass is done with any queue.

Each lock section is one step, and so is each load or store of `has_awoken` and each call of
`us_wakeup_loop`.  Between two steps of one thread any other thread may take steps.  What handling
a message does to its request is not part of this module: whatever branch is taken, the loop goes
on to the next message.
-/

namespace TorOnion

namespace MessageQueues

/-! ## The data -/

/-- The queues, in the order in which `drain_events` drains them. -/
inductive Queue
  | queuedResponseBodyDrains
  | queuedWrites
  | queuedShutdowns
  deriving DecidableEq

inductive WriteMessageType
  | data
  | «end»
  deriving DecidableEq

/-- A `DrainMessage`, a `WriteMessage` or a `ShutdownMessage`. -/
inductive Message
  | drain (asyncHttpId : UInt32)
  | write (asyncHttpId : UInt32) (kind : WriteMessageType)
  | shutdown (asyncHttpId : UInt32)
  deriving DecidableEq

/-- The queue that a message goes to. -/
def Message.queue : Message → Queue
  | drain _ => .queuedResponseBodyDrains
  | write _ _ => .queuedWrites
  | shutdown _ => .queuedShutdowns

/-- Where a producer is in a call of `schedule_*`. -/
inductive ProducerPc
  /-- In no call, or past its end. -/
  | idle
  /-- After the lock section, before `wakeup` loads `has_awoken`. -/
  | pushed
  /-- Before `us_wakeup_loop`: the load has returned true. -/
  | waking
  deriving DecidableEq

/-- Where the HTTP thread is. -/
inductive ThreadPc
  /-- In `on_start`, before the store of `has_awoken`. -/
  | starting
  /-- In the loop that drains a queue, before its lock section. -/
  | taking (q : Queue)
  /-- In the body of that loop, with the messages of the taken vector that are still to be handled
  and the length it had. -/
  | handling (q : Queue) (rest : List Message) (len : ℕ)
  /-- In `drain_events` after the queues, or in `process_events` before `tick`. -/
  | startingTasks
  /-- In `tick`. -/
  | parked
  deriving DecidableEq

/-- Where `drain_events` goes when it has drained a queue. -/
def Queue.next : Queue → ThreadPc
  | queuedResponseBodyDrains => .taking .queuedWrites
  | queuedWrites => .taking .queuedShutdowns
  | queuedShutdowns => .startingTasks

end MessageQueues

open MessageQueues in
/-- The part of `HttpThread` that messages go through, with the threads, and with the history of
each queue: what was pushed and what was handled, in order.  `wakePending` says that
`us_wakeup_loop` was called and no `tick` has returned for it. -/
structure MessageQueues (ι : Type*) where
  hasAwoken : Bool
  wakePending : Bool
  queued : Queue → List Message
  thread : ThreadPc
  producer : ι → ProducerPc
  pushed : Queue → List Message
  handled : Queue → List Message

namespace MessageQueues

variable {ι : Type*}

/-- `HttpThread::new`, before the thread is spawned. -/
def init : MessageQueues ι where
  hasAwoken := false
  wakePending := false
  queued _ := []
  thread := .starting
  producer _ := .idle
  pushed _ := []
  handled _ := []

/-! ## The source -/

/-- The next step of the HTTP thread, if it has one. -/
def threadStep (s : MessageQueues ι) : Option (MessageQueues ι) :=
  match s.thread with
  | .starting =>
      some { s with hasAwoken := true, thread := .taking .queuedResponseBodyDrains }
  | .taking q =>
      some { s with
        queued := Function.update s.queued q []
        thread := .handling q (s.queued q) (s.queued q).length }
  | .handling q (m :: rest) len =>
      some { s with
        thread := .handling q rest len
        handled := Function.update s.handled q (s.handled q ++ [m]) }
  | .handling q [] len => some { s with thread := if len = 0 then q.next else .taking q }
  | .startingTasks => some { s with thread := .parked }
  | .parked =>
      if s.wakePending then
        some { s with wakePending := false, thread := .taking .queuedResponseBodyDrains }
      else none

section Producers

variable [DecidableEq ι]

/-- The lock section of the three functions below. -/
def push (s : MessageQueues ι) (i : ι) (q : Queue) (m : Message) : MessageQueues ι :=
  { s with
    queued := Function.update s.queued q (s.queued q ++ [m])
    producer := Function.update s.producer i .pushed
    pushed := Function.update s.pushed q (s.pushed q ++ [m]) }

def scheduleResponseBodyDrain (s : MessageQueues ι) (i : ι) (asyncHttpId : UInt32) :
    MessageQueues ι :=
  s.push i .queuedResponseBodyDrains (.drain asyncHttpId)

def scheduleRequestWrite (s : MessageQueues ι) (i : ι) (asyncHttpId : UInt32)
    (kind : WriteMessageType) : MessageQueues ι :=
  s.push i .queuedWrites (.write asyncHttpId kind)

def scheduleShutdown (s : MessageQueues ι) (i : ι) (asyncHttpId : UInt32) : MessageQueues ι :=
  s.push i .queuedShutdowns (.shutdown asyncHttpId)

/-- The function that sends a message, up to its call of `wakeup`. -/
def schedule (s : MessageQueues ι) (i : ι) : Message → MessageQueues ι
  | .drain asyncHttpId => s.scheduleResponseBodyDrain i asyncHttpId
  | .write asyncHttpId kind => s.scheduleRequestWrite i asyncHttpId kind
  | .shutdown asyncHttpId => s.scheduleShutdown i asyncHttpId

/-- The load of `wakeup`. -/
def loadAwoken (s : MessageQueues ι) (i : ι) : MessageQueues ι :=
  { s with producer := Function.update s.producer i (if s.hasAwoken then .waking else .idle) }

/-- The call of `us_wakeup_loop`. -/
def wakeupLoop (s : MessageQueues ι) (i : ι) : MessageQueues ι :=
  { s with producer := Function.update s.producer i .idle, wakePending := true }

/-- A step of one of the threads, or an event of the loop's own that makes `tick` return. -/
inductive Label (ι : Type*)
  | schedule (i : ι) (m : Message)
  | loadAwoken (i : ι)
  | wakeupLoop (i : ι)
  | thread
  | otherEvent

def step (s : MessageQueues ι) : Label ι → Option (MessageQueues ι)
  | .schedule i m => if s.producer i = .idle then some (s.schedule i m) else none
  | .loadAwoken i => if s.producer i = .pushed then some (s.loadAwoken i) else none
  | .wakeupLoop i => if s.producer i = .waking then some (s.wakeupLoop i) else none
  | .thread => s.threadStep
  | .otherEvent =>
      if s.thread = .parked then some { s with thread := .taking .queuedResponseBodyDrains }
      else none

/-- The states that runs arrive at. -/
def Reachable (s : MessageQueues ι) : Prop :=
  Relation.ReflTransGen (fun s t => ∃ label, step s label = some t) init s

end Producers

/-- A step that finishes what was begun: neither a new call nor an event from outside. -/
def Label.Finishing : Label ι → Prop
  | schedule _ _ => False
  | otherEvent => False
  | _ => True

/-! ## The invariant -/

/-- The messages of a queue that the thread has taken and not handled yet. -/
def ThreadPc.inHand (q : Queue) : ThreadPc → List Message
  | handling q' rest _ => if q' = q then rest else []
  | _ => []

/-- A queue as its history: what was handled, and what is in hand or queued. -/
def stream (s : MessageQueues ι) (q : Queue) : Fifo Message :=
  ⟨s.handled q, s.thread.inHand q ++ s.queued q⟩

/-- How many queues a pass drains from this one on. -/
def Queue.left : Queue → ℕ
  | queuedResponseBodyDrains => 3
  | queuedWrites => 2
  | queuedShutdowns => 1

/-- The pass is done with a queue: it will not be taken again before the next pass. -/
def ThreadPc.Passed (q : Queue) : ThreadPc → Prop
  | starting => False
  | taking q' => q'.left < q.left
  | handling q' _ len => q'.left < q.left ∨ q' = q ∧ len = 0
  | startingTasks => True
  | parked => True

/-- What every step keeps. -/
structure Inv (s : MessageQueues ι) : Prop where
  history : ∀ q, (s.stream q).log = s.pushed q
  awoken : s.thread ≠ .starting → s.hasAwoken = true
  signalled : ∀ q, s.thread.Passed q → s.queued q ≠ [] →
    s.wakePending = true ∨ ∃ i, s.producer i ≠ .idle

variable {s t : MessageQueues ι}

/-! ## What the HTTP thread can do -/

/-- The steps of the HTTP thread, by name. -/
inductive ThreadStep (s : MessageQueues ι) : MessageQueues ι → Prop
  | start (hpc : s.thread = .starting) : ThreadStep s
      { s with hasAwoken := true, thread := .taking .queuedResponseBodyDrains }
  | take (q : Queue) (hpc : s.thread = .taking q) : ThreadStep s
      { s with
        queued := Function.update s.queued q []
        thread := .handling q (s.queued q) (s.queued q).length }
  | handle (q : Queue) (m : Message) (rest : List Message) (len : ℕ)
      (hpc : s.thread = .handling q (m :: rest) len) : ThreadStep s
      { s with
        thread := .handling q rest len
        handled := Function.update s.handled q (s.handled q ++ [m]) }
  | endVector (q : Queue) (len : ℕ) (hpc : s.thread = .handling q [] len) : ThreadStep s
      { s with thread := if len = 0 then q.next else .taking q }
  | park (hpc : s.thread = .startingTasks) : ThreadStep s { s with thread := .parked }
  | tickReturns (hpc : s.thread = .parked) (hwake : s.wakePending = true) : ThreadStep s
      { s with wakePending := false, thread := .taking .queuedResponseBodyDrains }

lemma threadStep_cases (h : s.threadStep = some t) : ThreadStep s t := by
  rw [threadStep] at h
  split at h
  · rename_i hpc
    obtain rfl := Option.some.inj h
    exact .start hpc
  · rename_i q hpc
    obtain rfl := Option.some.inj h
    exact .take q hpc
  · rename_i q m rest len hpc
    obtain rfl := Option.some.inj h
    exact .handle q m rest len hpc
  · rename_i q len hpc
    obtain rfl := Option.some.inj h
    exact .endVector q len hpc
  · rename_i hpc
    obtain rfl := Option.some.inj h
    exact .park hpc
  · rename_i hpc
    obtain ⟨hwake, h⟩ := Option.ite_none_right_eq_some.mp h
    obtain rfl := Option.some.inj h
    exact .tickReturns hpc hwake

/-! ## Messages in order

A queue sees each step as a push, as a pop, or not at all. -/

lemma stream_push [DecidableEq ι] (i : ι) (q q' : Queue) (m : Message) :
    (s.push i q m).stream q' = (s.stream q').push (if q' = q then [m] else []) := by
  by_cases hq : q' = q
  · subst hq
    simp [stream, push, Fifo.push]
  · simp [stream, push, Fifo.push, hq]

/-- A step of the HTTP thread handles the oldest message of a queue, or none. -/
lemma stream_threadStep (h : ThreadStep s t) (q : Queue) :
    ∃ n, t.stream q = (s.stream q).pop n := by
  cases h with
  | start hpc => exact ⟨0, by simp [stream, hpc, ThreadPc.inHand]⟩
  | take q' hpc =>
      -- the messages of the queue move into the thread's hand
      refine ⟨0, ?_⟩
      by_cases hq : q' = q
      · subst hq
        simp [stream, hpc, ThreadPc.inHand]
      · simp [stream, hpc, ThreadPc.inHand, hq, Ne.symm hq]
  | handle q' m rest len hpc =>
      by_cases hq : q' = q
      · subst hq
        exact ⟨1, by simp [stream, hpc, ThreadPc.inHand, Fifo.pop]⟩
      · exact ⟨0, by simp [stream, hpc, ThreadPc.inHand, hq, Ne.symm hq]⟩
  | endVector q' len hpc =>
      refine ⟨0, ?_⟩
      by_cases hlen : len = 0
      · cases q' <;> simp [stream, hpc, ThreadPc.inHand, hlen, Queue.next]
      · simp [stream, hpc, ThreadPc.inHand, hlen]
  | park hpc => exact ⟨0, by simp [stream, hpc, ThreadPc.inHand]⟩
  | tickReturns hpc hwake => exact ⟨0, by simp [stream, hpc, ThreadPc.inHand]⟩

/-- The HTTP thread pushes nothing and moves no producer. -/
lemma pushed_threadStep (h : ThreadStep s t) :
    t.pushed = s.pushed ∧ t.producer = s.producer := by
  cases h <;> exact ⟨rfl, rfl⟩

/-! ## Wake-ups -/

/-- A pass is not done with any queue when it begins. -/
lemma not_passed_first (q : Queue) :
    ¬(ThreadPc.taking .queuedResponseBodyDrains).Passed q := by
  rw [ThreadPc.Passed]
  cases q <;> decide

/-- When a pass goes on from one queue, it is done with that one and with those before. -/
lemma passed_next {q q' : Queue} (h : q'.next.Passed q) : q'.left < q.left ∨ q' = q := by
  cases q' <;> cases q <;> simp_all [Queue.next, ThreadPc.Passed, Queue.left]

lemma awoken_threadStep (hs : s.Inv) (h : ThreadStep s t) : t.hasAwoken = true := by
  cases h with
  | start hpc => rfl
  | take q hpc => exact hs.awoken (by simp [hpc])
  | handle q m rest len hpc => exact hs.awoken (by simp [hpc])
  | endVector q len hpc => exact hs.awoken (by simp [hpc])
  | park hpc => exact hs.awoken (by simp [hpc])
  | tickReturns hpc hwake => exact hs.awoken (by simp [hpc])

/-- The HTTP thread gets done with a queue only by finding it empty, and it takes a wake-up only
to begin a new pass. -/
lemma signalled_threadStep (hs : s.Inv) (h : ThreadStep s t) (q : Queue)
    (hpassed : t.thread.Passed q) (hne : t.queued q ≠ []) :
    t.wakePending = true ∨ ∃ i, t.producer i ≠ .idle := by
  cases h with
  | start hpc => exact absurd hpassed (not_passed_first q)
  | take q' hpc =>
      rcases hpassed with hlt | ⟨rfl, hlen⟩
      · have hq : q ≠ q' := by
          rintro rfl
          exact lt_irrefl _ hlt
        refine hs.signalled q ?_ ?_
        · rw [hpc]
          exact hlt
        · simpa [hq] using hne
      · simp at hne
  | handle q' m rest len hpc =>
      refine hs.signalled q ?_ hne
      rw [hpc]
      exact hpassed
  | endVector q' len hpc =>
      refine hs.signalled q ?_ hne
      rw [hpc]
      by_cases hlen : len = 0
      · simp only [if_pos hlen] at hpassed
        exact (passed_next hpassed).imp_right fun hq => ⟨hq, hlen⟩
      · simp only [if_neg hlen] at hpassed
        exact .inl hpassed
  | park hpc =>
      refine hs.signalled q ?_ hne
      rw [hpc]
      trivial
  | tickReturns hpc hwake => exact absurd hpassed (not_passed_first q)

/-! ## The invariant holds -/

lemma inv_init : (init : MessageQueues ι).Inv where
  history _ := rfl
  awoken h := absurd rfl h
  signalled _ h _ := h.elim

lemma Inv.threadStep (hs : s.Inv) (h : ThreadStep s t) : t.Inv := by
  refine ⟨fun q => ?_, fun _ => awoken_threadStep hs h, signalled_threadStep hs h⟩
  obtain ⟨n, hstream⟩ := stream_threadStep h q
  rw [hstream, Fifo.log_pop, hs.history, (pushed_threadStep h).1]

lemma Inv.otherEvent (hs : s.Inv) (hpc : s.thread = .parked) :
    { s with thread := .taking .queuedResponseBodyDrains : MessageQueues ι }.Inv := by
  refine ⟨fun q => ?_, fun _ => hs.awoken (by simp [hpc]),
    fun q hpassed _ => absurd hpassed (not_passed_first q)⟩
  rw [← hs.history q]
  simp [stream, hpc, ThreadPc.inHand]

section Producers

variable [DecidableEq ι]

lemma schedule_eq (s : MessageQueues ι) (i : ι) (m : Message) :
    s.schedule i m = s.push i m.queue m := by
  cases m <;> rfl

lemma Inv.schedule (hs : s.Inv) (i : ι) (m : Message) : (s.schedule i m).Inv := by
  rw [schedule_eq]
  refine ⟨fun q => ?_, hs.awoken, fun q _ _ => .inr ⟨i, by simp [push]⟩⟩
  rw [stream_push, Fifo.log_push, hs.history]
  by_cases hq : q = m.queue
  · subst hq
    simp [push]
  · simp [push, hq]

/-- A producer that finds `has_awoken` false has a thread that is done with no queue. -/
lemma Inv.loadAwoken (hs : s.Inv) (i : ι) : (s.loadAwoken i).Inv := by
  refine ⟨hs.history, hs.awoken, fun q hpassed _ => .inr ⟨i, ?_⟩⟩
  have hstarted : s.thread ≠ .starting := by
    intro hpc
    simp [MessageQueues.loadAwoken, hpc, ThreadPc.Passed] at hpassed
  simp [MessageQueues.loadAwoken, hs.awoken hstarted]

lemma Inv.wakeupLoop (hs : s.Inv) (i : ι) : (s.wakeupLoop i).Inv :=
  ⟨hs.history, hs.awoken, fun _ _ _ => .inl rfl⟩

/-- The step lemma. -/
lemma Inv.step (hs : s.Inv) {label : Label ι} (h : s.step label = some t) : t.Inv := by
  cases label with
  | schedule i m =>
      obtain ⟨-, ⟨⟩⟩ := Option.ite_none_right_eq_some.mp h
      exact hs.schedule i m
  | loadAwoken i =>
      obtain ⟨-, ⟨⟩⟩ := Option.ite_none_right_eq_some.mp h
      exact hs.loadAwoken i
  | wakeupLoop i =>
      obtain ⟨-, ⟨⟩⟩ := Option.ite_none_right_eq_some.mp h
      exact hs.wakeupLoop i
  | thread => exact hs.threadStep (threadStep_cases h)
  | otherEvent =>
      obtain ⟨hpc, ⟨⟩⟩ := Option.ite_none_right_eq_some.mp h
      exact hs.otherEvent hpc

/-- The run lemma. -/
lemma Reachable.inv (h : s.Reachable) : s.Inv :=
  invariant_of_run (fun _ _ hs ⟨_, hstep⟩ => hs.step hstep) h inv_init

end Producers

/-! ## Nothing sleeps -/

/-- A parked thread with no wake-up on its way has empty queues. -/
lemma Inv.queued_eq_nil (hs : s.Inv) (hpc : s.thread = .parked) (hwake : s.wakePending = false)
    (hidle : ∀ i, s.producer i = .idle) (q : Queue) : s.queued q = [] := by
  by_contra hne
  have hpassed : s.thread.Passed q := by
    rw [hpc]
    trivial
  rcases hs.signalled q hpassed hne with h | ⟨i, hi⟩
  · exact Bool.false_ne_true (hwake.symm.trans h)
  · exact hi (hidle i)

/-! ## Everything is finished -/

/-- A bound on the steps a producer has left, with those of the pass that its wake-up starts. -/
def ProducerPc.stepsLeft : ProducerPc → ℕ
  | idle => 0
  | pushed => 10
  | waking => 9

/-- A bound on the steps that the thread has left in its pass, apart from the queued messages. -/
def ThreadPc.stepsLeft : ThreadPc → ℕ
  | starting => 8
  | taking q => 2 * q.left + 1
  | handling q rest len => rest.length + 2 * q.left + if len = 0 then 0 else 2
  | startingTasks => 1
  | parked => 0

def queuedLength (queued : Queue → List Message) : ℕ :=
  (queued .queuedResponseBodyDrains).length + (queued .queuedWrites).length +
    (queued .queuedShutdowns).length

/-- A bound on the steps that finish what was begun.  A queued message costs three: it is handled,
and its vector is ended and looked for once more. -/
def stepsLeft [Fintype ι] (s : MessageQueues ι) : ℕ :=
  ∑ i, (s.producer i).stepsLeft + s.thread.stepsLeft + 3 * queuedLength s.queued +
    if s.wakePending then 8 else 0

lemma queuedLength_take (queued : Queue → List Message) (q : Queue) :
    queuedLength (Function.update queued q []) + (queued q).length = queuedLength queued := by
  cases q <;> simp [queuedLength] <;> omega

lemma stepsLeft_threadStep [Fintype ι] (h : ThreadStep s t) : t.stepsLeft < s.stepsLeft := by
  cases h with
  | start hpc => simp [stepsLeft, hpc, ThreadPc.stepsLeft, Queue.left]
  | take q hpc =>
      have htake := queuedLength_take s.queued q
      simp only [stepsLeft, hpc, ThreadPc.stepsLeft]
      split_ifs <;> omega
  | handle q m rest len hpc =>
      simp only [stepsLeft, hpc, ThreadPc.stepsLeft, List.length_cons]
      omega
  | endVector q len hpc =>
      by_cases hlen : len = 0
      · cases q <;> simp [stepsLeft, hpc, ThreadPc.stepsLeft, hlen, Queue.next, Queue.left]
      · simp [stepsLeft, hpc, ThreadPc.stepsLeft, hlen]
  | park hpc => simp [stepsLeft, hpc, ThreadPc.stepsLeft]
  | tickReturns hpc hwake =>
      simp only [stepsLeft, hpc, hwake, ThreadPc.stepsLeft, Queue.left, if_true,
        Bool.false_eq_true, if_false]
      omega

section Producers

variable [Fintype ι] [DecidableEq ι]

/-- Moving one producer changes the sum by what that producer has left. -/
lemma sum_stepsLeft_update (producer : ι → ProducerPc) (i : ι) (pc : ProducerPc) :
    ∑ j, (Function.update producer i pc j).stepsLeft + (producer i).stepsLeft =
      ∑ j, (producer j).stepsLeft + pc.stepsLeft := by
  rw [Fintype.sum_eq_add_sum_compl i, Fintype.sum_eq_add_sum_compl i fun j =>
    (producer j).stepsLeft, Function.update_self]
  have hrest : ∑ j ∈ {i}ᶜ, (Function.update producer i pc j).stepsLeft =
      ∑ j ∈ {i}ᶜ, (producer j).stepsLeft := by
    refine Finset.sum_congr rfl fun j hj => ?_
    rw [Function.update_of_ne (by simpa using hj)]
  rw [hrest]
  omega

/-- Each step that finishes what was begun leaves fewer of them. -/
lemma stepsLeft_lt {label : Label ι} (hl : label.Finishing) (h : s.step label = some t) :
    t.stepsLeft < s.stepsLeft := by
  cases label with
  | schedule i m => exact hl.elim
  | otherEvent => exact hl.elim
  | thread => exact stepsLeft_threadStep (threadStep_cases h)
  | loadAwoken i =>
      obtain ⟨hpc, ⟨⟩⟩ := Option.ite_none_right_eq_some.mp h
      have hsum := sum_stepsLeft_update s.producer i (if s.hasAwoken then .waking else .idle)
      have hle : (if s.hasAwoken then ProducerPc.waking else .idle).stepsLeft ≤ 9 := by
        split_ifs <;> decide
      rw [hpc, ProducerPc.stepsLeft] at hsum
      have hload : (s.loadAwoken i).stepsLeft =
          ∑ j, (Function.update s.producer i (if s.hasAwoken then .waking else .idle) j).stepsLeft +
            s.thread.stepsLeft + 3 * queuedLength s.queued + if s.wakePending then 8 else 0 := rfl
      rw [hload, stepsLeft]
      omega
  | wakeupLoop i =>
      obtain ⟨hpc, ⟨⟩⟩ := Option.ite_none_right_eq_some.mp h
      have hsum := sum_stepsLeft_update s.producer i .idle
      rw [hpc, ProducerPc.stepsLeft, ProducerPc.stepsLeft] at hsum
      simp only [stepsLeft, wakeupLoop, if_true]
      split_ifs <;> omega

end Producers

/-- Where nothing that was begun can go on, the thread is parked and nobody is about to wake it. -/
lemma parked_of_finished [DecidableEq ι]
    (hdone : ∀ label : Label ι, label.Finishing → s.step label = none) :
    s.thread = .parked ∧ s.wakePending = false ∧ ∀ i, s.producer i = .idle := by
  have hthread : s.threadStep = none := hdone .thread trivial
  have hidle : ∀ i, s.producer i = .idle := by
    intro i
    cases hpc : s.producer i with
    | idle => rfl
    | pushed =>
        have hload : s.step (.loadAwoken i) = none := hdone (.loadAwoken i) trivial
        rw [step, if_pos hpc] at hload
        cases hload
    | waking =>
        have hwake : s.step (.wakeupLoop i) = none := hdone (.wakeupLoop i) trivial
        rw [step, if_pos hpc] at hwake
        cases hwake
  rw [threadStep] at hthread
  split at hthread
  case h_6 hpc =>
    refine ⟨hpc, ?_, hidle⟩
    by_contra hwake
    rw [if_pos (by simpa using hwake)] at hthread
    cases hthread
  all_goals cases hthread

/-- Where nothing that was begun can go on, everything that was pushed has been handled. -/
lemma handled_of_finished [DecidableEq ι] (hs : s.Inv)
    (hdone : ∀ label : Label ι, label.Finishing → s.step label = none) (q : Queue) :
    s.handled q = s.pushed q := by
  obtain ⟨hpc, hwake, hidle⟩ := parked_of_finished hdone
  have hempty : (s.stream q).waiting = [] := by
    rw [stream, hs.queued_eq_nil hpc hwake hidle q, hpc]
    rfl
  rw [← hs.history q]
  exact Fifo.gone_eq_log _ hempty

/-- **No message is lost, repeated, reordered or left sleeping.**  In every state that a run
arrives at, what was handled of each queue is followed by what is in hand and what is queued, and
together they are what was pushed; a parked thread with no wake-up pending and no producer before
its wake-up has empty queues; and what was begun is finished in a bounded number of steps, with
every message handled. -/
theorem messages_handled [Fintype ι] [DecidableEq ι] (h : s.Reachable) :
    (∀ q, s.handled q ++ (s.thread.inHand q ++ s.queued q) = s.pushed q) ∧
    (s.thread = .parked → s.wakePending = false → (∀ i, s.producer i = .idle) →
      ∀ q, s.queued q = []) ∧
    ∃ bound, ∀ (labels : List (Label ι)) (t : MessageQueues ι),
      (∀ label ∈ labels, label.Finishing) → labels.foldlM step s = some t →
        labels.length ≤ bound ∧
        ((∀ label : Label ι, label.Finishing → t.step label = none) →
          ∀ q, t.handled q = t.pushed q) := by
  refine ⟨h.inv.history, fun hpc hwake hidle => h.inv.queued_eq_nil hpc hwake hidle,
    s.stepsLeft, fun labels t hlabels hrun => ⟨?_, fun hdone => ?_⟩⟩
  · exact length_le_of_foldlM (fun _ _ _ hl hstep => stepsLeft_lt hl hstep) labels hlabels hrun
  · have ht : t.Reachable := h.trans (run_of_foldlM labels hrun)
    exact handled_of_finished ht.inv hdone

/-- A write that arrives when the pass has just found its queue empty, and the pass that its
wake-up starts. -/
def lateWrite : List (Label Unit) :=
  [.thread, .thread, .thread, .thread, .schedule () (.write 7 .«end»), .thread, .loadAwoken (),
    .thread, .thread, .wakeupLoop (), .thread, .thread, .thread, .thread, .thread, .thread,
    .thread, .thread, .thread, .thread, .thread, .thread]

theorem messages_handled_lateWrite : ∃ s : MessageQueues Unit,
    lateWrite.foldlM step init = some s ∧ s.handled .queuedWrites = [.write 7 .«end»] ∧
      ∀ q, s.queued q = [] := by
  refine ⟨_, rfl, rfl, ?_⟩
  exact (messages_handled (run_of_foldlM lateWrite rfl)).2.1 rfl rfl fun _ => rfl

end MessageQueues

end TorOnion
