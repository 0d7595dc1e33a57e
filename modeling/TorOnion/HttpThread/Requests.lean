import TorOnion.HttpThread.Scheduler

/-!
# Requests are started once, in order and within the limit

The invariant of the loops of `drain_events`, `Midway`, holds after any number of rounds: a
request is still to come, deferred again, or started; the first request that has to be deferred
finds the thread full, and it stays full, so from there on only aborted requests are started and
nothing is overtaken.

An abort that is requested while the request waits is seen by the next drain: the message finds
nothing, which forces the loops, and they start every aborted request.  An abort that is requested
before the request is scheduled can be missed, when a drain comes between the two: the message is
used up, and a full thread then leaves the request waiting (`aborted_left_waiting`).
-/

namespace TorOnion

namespace Scheduler

open Relation (ReflTransGen)

variable {max : ℕ} {asyncHttpId : AsyncHttp → UInt32} {finishes : AsyncHttp → Bool}
  {s s' : Scheduler} {http : AsyncHttp} {rest tasks : List AsyncHttp} {answers : DrainAnswers}

/-! ## Requests -/

/-- Where the requests are: each is started, deferred, or in `rest`, which stands for the queue
and for what a loop has still to look at. -/
structure Kept (max : ℕ) (s : Scheduler) (rest : List AsyncHttp) : Prop where
  unique : (scheduled s.log).Nodup
  perm : (scheduled s.log).Perm (started s.log ++ (s.deferredTasks ++ rest))
  inOrder : (startedUnaborted s.log ++ (s.deferredTasks ++ rest)).Sublist (scheduled s.log)
  room : ∀ http active, .started http false active ∈ s.log → active < max
  bound : s.activeRequestsCount ≤ max

/-- In the middle of a loop, the thread is full once something was deferred. -/
structure Midway (max : ℕ) (s : Scheduler) (rest : List AsyncHttp) : Prop
    extends Kept max s rest where
  full : s.deferredTasks ≠ [] → max ≤ s.activeRequestsCount

lemma Midway.startQueuedTask (h : Midway max s (http :: rest))
    (hroom : http ∈ s.aborted ∨ s.activeRequestsCount < max) :
    Midway max (s.startQueuedTask finishes http) rest := by
  obtain ⟨hle, hsucc, haborted⟩ := startQueuedTask_active finishes http s
  have hbound := h.bound
  constructor
  · constructor
    · rw [scheduled_startQueuedTask]
      exact h.unique
    · rw [scheduled_startQueuedTask, started_startQueuedTask, List.append_assoc]
      refine h.perm.trans (List.Perm.append_left _ ?_)
      exact List.perm_middle
    · rw [scheduled_startQueuedTask, startedUnaborted_startQueuedTask]
      by_cases hsignal : http ∈ s.aborted
      · rw [if_pos hsignal, List.append_nil]
        refine List.Sublist.trans ?_ h.inOrder
        exact List.Sublist.append_left (List.Sublist.append_left (List.sublist_cons_self _ _) _) _
      · -- nothing was deferred, since the thread is not full
        have hnone : s.deferredTasks = [] := by
          by_contra hne
          have := h.full hne
          have := hroom.resolve_left hsignal
          omega
        rw [if_neg hsignal, List.append_assoc]
        simpa [hnone, Scheduler.startQueuedTask] using h.inOrder
    · intro http' active hmem
      rcases List.mem_append.mp hmem with hmem | hmem
      · exact h.room http' active hmem
      · obtain ⟨rfl, hsignal, rfl⟩ := Event.started.inj (List.mem_singleton.mp hmem)
        exact hroom.resolve_left (of_decide_eq_false hsignal.symm)
    · by_cases hsignal : http ∈ s.aborted
      · rw [haborted hsignal]
        exact hbound
      · have := hroom.resolve_left hsignal
        omega
  · intro hne
    exact (h.full hne).trans hle

lemma Midway.startOrDefer (h : Midway max s (http :: rest)) :
    Midway max (s.startOrDefer max finishes http) rest := by
  unfold Scheduler.startOrDefer
  split_ifs with hroom
  · exact h.startQueuedTask hroom
  · rw [not_or, not_lt] at hroom
    refine ⟨⟨h.unique, ?_, ?_, h.room, h.bound⟩, fun _ => hroom.2⟩
    · simpa using h.perm
    · simpa using h.inOrder

/-- The loop. -/
lemma Midway.foldl (h : Midway max s (tasks ++ rest)) :
    Midway max (tasks.foldl (Scheduler.startOrDefer max finishes) s) rest := by
  induction tasks generalizing s with
  | nil => exact h
  | cons http tasks ih => exact ih (h.startOrDefer)

/-! ## What a loop leaves alone -/

/-- A loop only adds to the log that it started requests, the aborted ones among them. -/
structure LoopFrame (s s' : Scheduler) (tasks : List AsyncHttp) : Prop where
  queuedShutdowns : s'.queuedShutdowns = s.queuedShutdowns
  aborted : s'.aborted = s.aborted
  log : ∃ new, s'.log = s.log ++ new ∧ ∀ event ∈ new, ∃ http signal active,
    event = .started http signal active
  started : ∀ http ∈ tasks, http ∈ s.aborted → http ∈ started s'.log

lemma LoopFrame.started_mono (h : LoopFrame s s' tasks) (hmem : http ∈ Scheduler.started s.log) :
    http ∈ Scheduler.started s'.log := by
  obtain ⟨new, hlog, -⟩ := h.log
  rw [hlog, started_append]
  exact List.mem_append_left _ hmem

lemma startOrDefer_frame : LoopFrame s (s.startOrDefer max finishes http) [http] := by
  unfold startOrDefer
  split_ifs with hroom
  · refine ⟨rfl, rfl, ⟨_, rfl, fun event hmem => ?_⟩, fun http' hmem _ => ?_⟩
    · exact ⟨http, _, _, List.mem_singleton.mp hmem⟩
    · rw [started_startQueuedTask]
      exact List.mem_append_right _ hmem
  · refine ⟨rfl, rfl, ⟨[], (List.append_nil _).symm, by simp⟩, ?_⟩
    intro http' hmem haborted
    obtain rfl := List.mem_singleton.mp hmem
    exact absurd (.inl haborted) hroom

lemma LoopFrame.trans {s'' : Scheduler} (h : LoopFrame s s' tasks) (h' : LoopFrame s' s'' rest) :
    LoopFrame s s'' (tasks ++ rest) := by
  obtain ⟨new, hlog, hnew⟩ := h.log
  obtain ⟨new', hlog', hnew'⟩ := h'.log
  refine ⟨h'.queuedShutdowns.trans h.queuedShutdowns, h'.aborted.trans h.aborted,
    ⟨new ++ new', by rw [hlog', hlog, List.append_assoc], ?_⟩, ?_⟩
  · exact fun event hmem => (List.mem_append.mp hmem).elim (hnew event) (hnew' event)
  · intro http hmem haborted
    rcases List.mem_append.mp hmem with hmem | hmem
    · exact h'.started_mono (h.started http hmem haborted)
    · exact h'.started http hmem (h.aborted ▸ haborted)

lemma foldl_frame : LoopFrame s (tasks.foldl (startOrDefer max finishes) s) tasks := by
  induction tasks generalizing s with
  | nil => exact ⟨rfl, rfl, ⟨[], (List.append_nil _).symm, by simp⟩, by simp⟩
  | cons http tasks ih => exact startOrDefer_frame.trans ih

lemma foldl_queuedTasks :
    (tasks.foldl (startOrDefer max finishes) s).queuedTasks = s.queuedTasks := by
  induction tasks generalizing s with
  | nil => rfl
  | cons http tasks ih =>
      rw [List.foldl_cons, ih]
      unfold startOrDefer
      split_ifs <;> rfl

/-! ## A drain -/

/-- The loops of `drain_events` leave nothing in the queue, and start all aborted requests. -/
lemma startWaiting_spec (finishes : AsyncHttp → Bool) (h : Kept max s s.queuedTasks) :
    Midway max (s.startWaiting max finishes) [] ∧
      (s.startWaiting max finishes).queuedTasks = [] ∧
      LoopFrame s (s.startWaiting max finishes) s.waiting := by
  set s₁ : Scheduler := { s with hasPendingQueuedAbort := false, deferredTasks := [] } with hs₁
  set s₂ := s.deferredTasks.foldl (startOrDefer max finishes) s₁ with hs₂
  have hloops : s.startWaiting max finishes =
      s.queuedTasks.foldl (startOrDefer max finishes) { s₂ with queuedTasks := [] } := by
    have hqueue : s₂.queuedTasks = s.queuedTasks := foldl_queuedTasks
    rw [← hqueue]
    rfl
  have hstart : Midway max s₁ (s.deferredTasks ++ s.queuedTasks) :=
    ⟨⟨h.unique, h.perm, h.inOrder, h.room, h.bound⟩, fun hne => absurd rfl hne⟩
  have hmiddle : Midway max { s₂ with queuedTasks := [] } (s.queuedTasks ++ []) := by
    have h₂ : Midway max s₂ s.queuedTasks := hstart.foldl
    rw [List.append_nil]
    exact ⟨⟨h₂.unique, h₂.perm, h₂.inOrder, h₂.room, h₂.bound⟩, h₂.full⟩
  have hframe₁ : LoopFrame s { s₂ with queuedTasks := [] } s.deferredTasks := by
    have h₁ : LoopFrame s₁ s₂ s.deferredTasks := foldl_frame
    exact ⟨h₁.queuedShutdowns, h₁.aborted, h₁.log, h₁.started⟩
  rw [hloops]
  exact ⟨hmiddle.foldl, foldl_queuedTasks, hframe₁.trans foldl_frame⟩

/-- `drain_events` starts what waits, or returns early from a full thread in which every message
found its request. -/
lemma drainEvents_cases (max : ℕ) (answers : DrainAnswers) (s : Scheduler) :
    (max ≤ (s.beforeStarts answers).activeRequestsCount ∧
        (s.beforeStarts answers).hasPendingQueuedAbort = false ∧
        s.drainEvents max answers = (s.beforeStarts answers).logDrained) ∨
      s.drainEvents max answers =
        ((s.beforeStarts answers).startWaiting max answers.finishes).logDrained := by
  unfold drainEvents
  by_cases h : (s.beforeStarts answers).activeRequestsCount ≥ max ∧
      (s.beforeStarts answers).hasPendingQueuedAbort = false
  · exact .inl ⟨h.1, h.2, congrArg logDrained (if_pos h)⟩
  · exact .inr (congrArg logDrained (if_neg h))

/-- An event that schedules and starts nothing leaves the requests where they are. -/
lemma Kept.log {event : Event} (h : Kept max s rest) (hlog : s'.log = s.log ++ [event])
    (hscheduled : event.scheduled? = none) (hstarted : event.started? = none)
    (hdeferred : s'.deferredTasks = s.deferredTasks)
    (hactive : s'.activeRequestsCount = s.activeRequestsCount) : Kept max s' rest := by
  have hsame : scheduled s'.log = scheduled s.log ∧ started s'.log = started s.log ∧
      startedUnaborted s'.log = startedUnaborted s.log := by
    rw [hlog]
    cases event <;>
      simp_all [scheduled, started, startedUnaborted, Event.scheduled?, Event.started?,
        Event.startedUnaborted?]
  obtain ⟨hs, hst, hun⟩ := hsame
  refine ⟨hs ▸ h.unique, ?_, ?_, fun http active hmem => ?_, hactive ▸ h.bound⟩
  · rw [hs, hst, hdeferred]
    exact h.perm
  · rw [hs, hun, hdeferred]
    exact h.inOrder
  · rw [hlog] at hmem
    rcases List.mem_append.mp hmem with hmem | hmem
    · exact h.room http active hmem
    · obtain rfl := List.mem_singleton.mp hmem
      cases hstarted

lemma Kept.logDrained (h : Kept max s rest) : Kept max s.logDrained rest :=
  h.log rfl rfl rfl rfl rfl

lemma Kept.beforeStarts (h : Kept max s rest) : Kept max (s.beforeStarts answers) rest :=
  ⟨h.unique, h.perm, h.inOrder, h.room, (Nat.sub_le _ _).trans h.bound⟩

/-- When a drain returns, requests wait only if the thread is full. -/
lemma Kept.drainEvents (h : Kept max s s.queuedTasks) :
    Kept max (s.drainEvents max answers) (s.drainEvents max answers).queuedTasks ∧
      ((s.drainEvents max answers).waiting ≠ [] →
        max ≤ (s.drainEvents max answers).activeRequestsCount) := by
  have hbefore : Kept max (s.beforeStarts answers) (s.beforeStarts answers).queuedTasks :=
    h.beforeStarts
  rcases drainEvents_cases max answers s with ⟨hfull, -, heq⟩ | heq
  · rw [heq]
    exact ⟨hbefore.logDrained, fun _ => hfull⟩
  · obtain ⟨hmidway, hqueue, -⟩ := startWaiting_spec answers.finishes hbefore
    rw [heq]
    constructor
    · change Kept max _ ((s.beforeStarts answers).startWaiting max answers.finishes).queuedTasks
      rw [hqueue]
      exact hmidway.toKept.logDrained
    · intro hwaiting
      refine hmidway.full fun hdeferred => hwaiting ?_
      exact List.append_eq_nil_iff.mpr ⟨hdeferred, hqueue⟩

/-! ## Runs -/

lemma Kept.step (h : Kept max s s.queuedTasks) {label : Label}
    (hstep : step max asyncHttpId s label = some s') : Kept max s' s'.queuedTasks := by
  cases label with
  | schedule http =>
      simp only [Scheduler.step] at hstep
      split_ifs at hstep with hfresh
      obtain rfl := Option.some.inj hstep
      have hscheduled : scheduled (s.log ++ [.scheduled http]) = scheduled s.log ++ [http] :=
        scheduled_append _ _
      have hstarted : started (s.log ++ [.scheduled http]) = started s.log :=
        (started_append _ _).trans (List.append_nil _)
      have hunaborted : startedUnaborted (s.log ++ [.scheduled http]) = startedUnaborted s.log :=
        (startedUnaborted_append _ _).trans (List.append_nil _)
      refine ⟨?_, ?_, ?_, fun http' active hmem => ?_, h.bound⟩
      · rw [hscheduled, List.nodup_append]
        refine ⟨h.unique, List.nodup_singleton _, fun a ha b hb => ?_⟩
        rintro rfl
        exact hfresh (List.mem_singleton.mp hb ▸ ha)
      · rw [hscheduled, hstarted, ← List.append_assoc s.deferredTasks, ← List.append_assoc]
        exact h.perm.append_right _
      · rw [hscheduled, hunaborted, ← List.append_assoc s.deferredTasks, ← List.append_assoc]
        exact h.inOrder.append_right _
      · exact h.room http' active (by simpa using hmem)
  | abort http =>
      obtain rfl := Option.some.inj hstep
      exact h.log rfl rfl rfl rfl rfl
  | scheduleShutdown http =>
      obtain rfl := Option.some.inj hstep
      exact h.log rfl rfl rfl rfl rfl
  | complete =>
      simp only [Scheduler.step] at hstep
      split_ifs at hstep
      obtain rfl := Option.some.inj hstep
      exact ⟨h.unique, h.perm, h.inOrder, h.room, (Nat.sub_le _ _).trans h.bound⟩
  | drainEvents answers =>
      simp only [Scheduler.step] at hstep
      split_ifs at hstep
      obtain rfl := Option.some.inj hstep
      exact h.drainEvents.1

/-! ## Aborts -/

/-- `shutdownScheduled` was logged for a request whose signal was set, and no drain has returned
since. -/
def OpenRequest (log : List Event) (http : AsyncHttp) : Prop :=
  ∃ pre mid, log = pre ++ .shutdownScheduled http :: mid ∧ .aborted http ∈ pre ∧ .drained ∉ mid

/-- The abort of a request was requested: its signal was set, then `schedule_shutdown` was called,
and the request was scheduled before that or before the next drain. -/
def AbortRequested (log : List Event) (http : AsyncHttp) : Prop :=
  ∃ pre mid, log = pre ++ .shutdownScheduled http :: mid ∧ .aborted http ∈ pre ∧
    (.scheduled http ∈ pre ∨
      ∃ before after, mid = before ++ .scheduled http :: after ∧ .drained ∉ before)

lemma openRequest_concat {log : List Event} {event : Event}
    (h : OpenRequest (log ++ [event]) http) : event ≠ .drained ∧
      (OpenRequest log http ∨ event = .shutdownScheduled http ∧ .aborted http ∈ log) := by
  obtain ⟨pre, mid, hlog, haborted, hmid⟩ := h
  rcases split_concat hlog with ⟨rfl, rfl, rfl⟩ | ⟨mid, rfl, rfl⟩
  · exact ⟨by simp, .inr ⟨rfl, haborted⟩⟩
  · rw [List.mem_append, not_or] at hmid
    exact ⟨fun heq => hmid.2 (heq ▸ List.mem_cons_self), .inl ⟨pre, mid, rfl, haborted, hmid.1⟩⟩

lemma abortRequested_concat {log : List Event} {event : Event}
    (h : AbortRequested (log ++ [event]) http) : AbortRequested log http ∨
      (event = .shutdownScheduled http ∧ .aborted http ∈ log ∧ .scheduled http ∈ log) ∨
      (event = .scheduled http ∧ OpenRequest log http) := by
  obtain ⟨pre, mid, hlog, haborted, hscheduled⟩ := h
  rcases split_concat hlog with ⟨rfl, rfl, rfl⟩ | ⟨mid, rfl, rfl⟩
  · refine .inr (.inl ⟨rfl, haborted, hscheduled.resolve_right ?_⟩)
    rintro ⟨before, after, hmid, -⟩
    simp at hmid
  · rcases hscheduled with hscheduled | ⟨before, after, hmid, hbefore⟩
    · exact .inl ⟨pre, mid, rfl, haborted, .inl hscheduled⟩
    · -- the request is scheduled by the last event, or before it
      rcases split_concat hmid with ⟨rfl, rfl, rfl⟩ | ⟨after, rfl, rfl⟩
      · exact .inr (.inr ⟨rfl, pre, mid, rfl, haborted, hbefore⟩)
      · exact .inl ⟨pre, _, rfl, haborted, .inr ⟨before, after, rfl, hbefore⟩⟩

/-- Events of a loop and its return request no abort. -/
lemma abortRequested_append {log new : List Event}
    (hnew : ∀ event ∈ new, event.scheduled? = none ∧ ∀ http, event ≠ .shutdownScheduled http)
    (h : AbortRequested (log ++ new) http) : AbortRequested log http := by
  induction new using List.reverseRecOn with
  | nil => rwa [List.append_nil] at h
  | append_singleton new event ih =>
      rw [← List.append_assoc] at h
      obtain ⟨hscheduled, hshutdown⟩ := hnew event (by simp)
      rcases abortRequested_concat h with h | ⟨rfl, -⟩ | ⟨rfl, -⟩
      · exact ih (fun event hmem => hnew event (List.mem_append_left _ hmem)) h
      · exact absurd rfl (hshutdown http)
      · cases hscheduled

/-- A request whose abort was requested has been started, or its message is still queued. -/
structure AbortsSeen (asyncHttpId : AsyncHttp → UInt32) (s : Scheduler) : Prop where
  signal : ∀ http, .aborted http ∈ s.log → http ∈ s.aborted
  queued : ∀ http, OpenRequest s.log http →
    http ∈ s.aborted ∧ asyncHttpId http ∈ s.queuedShutdowns
  seen : ∀ http, AbortRequested s.log http → http ∈ scheduled s.log ∧ http ∈ s.aborted ∧
    (http ∈ started s.log ∨ asyncHttpId http ∈ s.queuedShutdowns)

/-- A drain starts every request whose abort was requested. -/
lemma AbortsSeen.started_of_drain (h : AbortsSeen asyncHttpId s) (hkept : Kept max s s.queuedTasks)
    (hdrain : CanDrain asyncHttpId answers s) (hrequested : AbortRequested s.log http) :
    http ∈ started (s.drainEvents max answers).log := by
  have hbefore : Kept max (s.beforeStarts answers) (s.beforeStarts answers).queuedTasks :=
    hkept.beforeStarts
  have hreturned : ∀ t : Scheduler, started t.logDrained.log = started t.log :=
    fun t => (started_append _ _).trans (List.append_nil _)
  obtain ⟨hscheduled, haborted, hseen⟩ := h.seen http hrequested
  obtain ⟨-, -, hframe⟩ := startWaiting_spec answers.finishes hbefore
  by_cases hstarted : http ∈ started s.log
  · rcases drainEvents_cases max answers s with ⟨-, -, heq⟩ | heq
    · rw [heq, hreturned]
      exact hstarted
    · rw [heq, hreturned]
      exact hframe.started_mono hstarted
  · have hwaiting : http ∈ s.waiting :=
      (List.mem_append.mp (hkept.perm.subset hscheduled)).resolve_left hstarted
    -- the message finds nothing, so there is no early return
    have hpending : (s.beforeStarts answers).hasPendingQueuedAbort = true := by
      obtain ⟨i, hi, hget⟩ := List.mem_iff_getElem.mp (hseen.resolve_left hstarted)
      have htarget := hdrain.2 i (List.mem_range.mpr hi) http hwaiting
        (by rw [List.getElem?_eq_getElem hi, hget])
      have hany : (List.range s.queuedShutdowns.length).any
          (fun i => answers.target i = .notFound) = true :=
        List.any_eq_true.mpr ⟨i, List.mem_range.mpr hi, decide_eq_true htarget⟩
      change (s.hasPendingQueuedAbort || _) = true
      rw [hany, Bool.or_true]
    rcases drainEvents_cases max answers s with ⟨-, hnone, -⟩ | heq
    · exact absurd (hpending.symm.trans hnone) (by decide)
    · rw [heq, hreturned]
      exact hframe.started http hwaiting haborted

/-- What a drain adds to the log. -/
lemma drainEvents_log (answers : DrainAnswers) (hkept : Kept max s s.queuedTasks) :
    ∃ new, (s.drainEvents max answers).log = s.log ++ new ++ [.drained] ∧
      (∀ event ∈ new, ∃ http signal active, event = .started http signal active) ∧
      (s.drainEvents max answers).aborted = s.aborted := by
  have hbefore : Kept max (s.beforeStarts answers) (s.beforeStarts answers).queuedTasks :=
    hkept.beforeStarts
  rcases drainEvents_cases max answers s with ⟨-, -, heq⟩ | heq
  · exact ⟨[], by rw [heq, List.append_nil]; rfl, by simp, by rw [heq]; rfl⟩
  · obtain ⟨-, -, hframe⟩ := startWaiting_spec answers.finishes hbefore
    obtain ⟨new, hlog, hnew⟩ := hframe.log
    exact ⟨new, by rw [heq]; exact congrArg (· ++ _) hlog, hnew, by rw [heq]; exact hframe.aborted⟩

lemma AbortsSeen.drainEvents (h : AbortsSeen asyncHttpId s) (hkept : Kept max s s.queuedTasks)
    (hdrain : CanDrain asyncHttpId answers s) :
    AbortsSeen asyncHttpId (s.drainEvents max answers) := by
  obtain ⟨new, hlog, hnew, haborted⟩ := drainEvents_log answers hkept
  refine ⟨fun http hmem => ?_, fun http hopen => ?_, fun http hrequested => ?_⟩
  · rw [haborted]
    refine h.signal http ?_
    rw [hlog, List.append_assoc] at hmem
    refine (List.mem_append.mp hmem).resolve_right fun hmem => ?_
    rcases List.mem_append.mp hmem with hmem | hmem
    · obtain ⟨_, _, _, heq⟩ := hnew _ hmem
      cases heq
    · cases List.mem_singleton.mp hmem
  · rw [hlog] at hopen
    exact absurd rfl (openRequest_concat hopen).1
  · have hrequested' : AbortRequested s.log http := by
      rw [hlog, List.append_assoc] at hrequested
      refine abortRequested_append (fun event hmem => ?_) hrequested
      rcases List.mem_append.mp hmem with hmem | hmem
      · obtain ⟨_, _, _, rfl⟩ := hnew _ hmem
        exact ⟨rfl, nofun⟩
      · obtain rfl := List.mem_singleton.mp hmem
        exact ⟨rfl, nofun⟩
    obtain ⟨hscheduled, hsignal, -⟩ := h.seen http hrequested'
    refine ⟨?_, haborted ▸ hsignal, .inl (h.started_of_drain hkept hdrain hrequested')⟩
    rw [hlog, List.append_assoc, scheduled_append]
    exact List.mem_append_left _ hscheduled

lemma AbortsSeen.schedule (h : AbortsSeen asyncHttpId s) (http : AsyncHttp) :
    AbortsSeen asyncHttpId { s with
      queuedTasks := s.queuedTasks ++ [http]
      log := s.log ++ [.scheduled http] } := by
  refine ⟨fun http' hmem => h.signal http' (by simpa using hmem), fun http' hopen => ?_,
    fun http' hrequested => ?_⟩
  · exact h.queued http' ((openRequest_concat hopen).2.resolve_right nofun)
  · have hmono : ∀ {t}, t ∈ scheduled s.log → t ∈ scheduled (s.log ++ [.scheduled http]) := by
      intro t ht
      rw [scheduled_append]
      exact List.mem_append_left _ ht
    have hstarted : started (s.log ++ [.scheduled http]) = started s.log :=
      (started_append _ _).trans (List.append_nil _)
    simp only [hstarted]
    rcases abortRequested_concat hrequested with hold | ⟨heq, -⟩ | ⟨heq, hopen⟩
    · obtain ⟨hscheduled, hrest⟩ := h.seen http' hold
      exact ⟨hmono hscheduled, hrest⟩
    · cases heq
    · obtain ⟨haborted, hqueued⟩ := h.queued http' hopen
      refine ⟨mem_scheduled.mpr ?_, haborted, .inr hqueued⟩
      exact List.mem_append_right _ (heq ▸ List.mem_cons_self)

lemma AbortsSeen.abort (h : AbortsSeen asyncHttpId s) (http : AsyncHttp) :
    AbortsSeen asyncHttpId { s with
      aborted := http :: s.aborted
      log := s.log ++ [.aborted http] } := by
  have hsame : scheduled (s.log ++ [.aborted http]) = scheduled s.log ∧
      started (s.log ++ [.aborted http]) = started s.log :=
    ⟨(scheduled_append _ _).trans (List.append_nil _),
      (started_append _ _).trans (List.append_nil _)⟩
  refine ⟨fun http' hmem => ?_, fun http' hopen => ?_, fun http' hrequested => ?_⟩
  · rcases List.mem_append.mp hmem with hmem | hmem
    · exact List.mem_cons_of_mem _ (h.signal http' hmem)
    · obtain rfl := Event.aborted.inj (List.mem_singleton.mp hmem)
      exact List.mem_cons_self
  · exact (h.queued http' ((openRequest_concat hopen).2.resolve_right nofun)).imp_left
      (List.mem_cons_of_mem _)
  · obtain ⟨hscheduled, haborted, hseen⟩ := h.seen http'
      ((abortRequested_concat hrequested).resolve_right (by simp))
    simp only [hsame]
    exact ⟨hscheduled, List.mem_cons_of_mem _ haborted, hseen⟩

lemma AbortsSeen.scheduleShutdown (h : AbortsSeen asyncHttpId s) (http : AsyncHttp) :
    AbortsSeen asyncHttpId { s with
      queuedShutdowns := s.queuedShutdowns ++ [asyncHttpId http]
      log := s.log ++ [.shutdownScheduled http] } := by
  have hsame : scheduled (s.log ++ [.shutdownScheduled http]) = scheduled s.log ∧
      started (s.log ++ [.shutdownScheduled http]) = started s.log :=
    ⟨(scheduled_append _ _).trans (List.append_nil _),
      (started_append _ _).trans (List.append_nil _)⟩
  have hnew : ∀ {http'}, Event.shutdownScheduled http = .shutdownScheduled http' →
      asyncHttpId http' ∈ s.queuedShutdowns ++ [asyncHttpId http] := by
    rintro http' heq
    obtain rfl := Event.shutdownScheduled.inj heq
    exact List.mem_append_right _ List.mem_cons_self
  refine ⟨fun http' hmem => h.signal http' (by simpa using hmem), fun http' hopen => ?_,
    fun http' hrequested => ?_⟩
  · rcases (openRequest_concat hopen).2 with hopen | ⟨heq, haborted⟩
    · exact (h.queued http' hopen).imp_right (List.mem_append_left _)
    · exact ⟨h.signal http' haborted, hnew heq⟩
  · simp only [hsame]
    rcases abortRequested_concat hrequested with hold | ⟨heq, haborted, hscheduled⟩ | ⟨heq, -⟩
    · obtain ⟨hscheduled, haborted, hseen⟩ := h.seen http' hold
      exact ⟨hscheduled, haborted, hseen.imp_right (List.mem_append_left _)⟩
    · exact ⟨mem_scheduled.mpr hscheduled, h.signal http' haborted, .inr (hnew heq)⟩
    · cases heq

lemma AbortsSeen.step (h : AbortsSeen asyncHttpId s) (hkept : Kept max s s.queuedTasks)
    {label : Label} (hstep : step max asyncHttpId s label = some s') :
    AbortsSeen asyncHttpId s' := by
  cases label with
  | schedule http =>
      simp only [Scheduler.step] at hstep
      split_ifs at hstep
      exact Option.some.inj hstep ▸ h.schedule http
  | abort http => exact Option.some.inj hstep ▸ h.abort http
  | scheduleShutdown http => exact Option.some.inj hstep ▸ h.scheduleShutdown http
  | complete =>
      simp only [Scheduler.step] at hstep
      split_ifs at hstep
      obtain rfl := Option.some.inj hstep
      exact ⟨h.signal, h.queued, h.seen⟩
  | drainEvents answers =>
      simp only [Scheduler.step] at hstep
      split_ifs at hstep with hdrain
      obtain rfl := Option.some.inj hstep
      exact h.drainEvents hkept hdrain

lemma kept_of_reachable (h : Reachable max asyncHttpId s) :
    Kept max s s.queuedTasks ∧ AbortsSeen asyncHttpId s := by
  refine invariant_of_run (I := fun s => Kept max s s.queuedTasks ∧ AbortsSeen asyncHttpId s)
    (fun s s' h hstep => ?_) h ⟨?_, ?_⟩
  · obtain ⟨label, hstep⟩ := hstep
    exact ⟨h.1.step hstep, h.2.step h.1 hstep⟩
  · constructor <;> simp [scheduled, started, startedUnaborted]
  · constructor <;> simp [OpenRequest, AbortRequested]

/-! ## The result -/

/-- **Requests are scheduled fairly and within the limit.**  Whatever order the threads take their
steps in:

* every request that was scheduled is in the queue, deferred or started, once;
* the requests that were started without having been aborted, those that are deferred and those
  in the queue stand, in this order, in the order of scheduling; each of the first was started
  while fewer than `max` requests were active, and never are more than `max` active;
* when `drain_events` returns, requests wait only if `max` are active, and no request waits whose
  abort was requested after it was scheduled, or before that but with no drain in between. -/
theorem requests_scheduled (h : Reachable max asyncHttpId s) :
    ((scheduled s.log).Nodup ∧
        (scheduled s.log).Perm (s.queuedTasks ++ s.deferredTasks ++ started s.log)) ∧
      ((startedUnaborted s.log ++ s.deferredTasks ++ s.queuedTasks).Sublist (scheduled s.log) ∧
        (∀ http active, .started http false active ∈ s.log → active < max) ∧
        s.activeRequestsCount ≤ max) ∧
      ∀ answers s', step max asyncHttpId s (.drainEvents answers) = some s' →
        (s'.queuedTasks ++ s'.deferredTasks ≠ [] → max ≤ s'.activeRequestsCount) ∧
          ∀ http, AbortRequested s.log http → http ∉ s'.queuedTasks ++ s'.deferredTasks := by
  obtain ⟨hkept, haborts⟩ := kept_of_reachable h
  have hplaces : ∀ {t : Scheduler}, Kept max t t.queuedTasks →
      (scheduled t.log).Perm (t.queuedTasks ++ t.deferredTasks ++ started t.log) := by
    intro t ht
    refine ht.perm.trans (List.perm_append_comm.trans ?_)
    exact List.perm_append_comm.append_right _
  refine ⟨⟨hkept.unique, hplaces hkept⟩, ⟨?_, hkept.room, hkept.bound⟩, ?_⟩
  · rw [List.append_assoc]
    exact hkept.inOrder
  · intro answers s' hstep
    have hkept' := hkept.step hstep
    simp only [step] at hstep
    split_ifs at hstep with hdrain
    obtain rfl := Option.some.inj hstep
    refine ⟨fun hwaiting => hkept.drainEvents.2 fun hnone => hwaiting ?_,
      fun http hrequested hwaiting => ?_⟩
    · obtain ⟨hdeferred, hqueued⟩ := List.append_eq_nil_iff.mp hnone
      rw [hdeferred, hqueued, List.append_nil]
    · have hstarted := haborts.started_of_drain hkept hdrain hrequested
      have hnodup := (hplaces hkept').nodup_iff.mp hkept'.unique
      exact List.disjoint_of_nodup_append hnodup hwaiting hstarted

/-- With one request allowed: the first is started, the second waits, is aborted and drained. -/
def abortLabels : List Label :=
  [.schedule 0, .schedule 1, .drainEvents {}, .abort 1, .scheduleShutdown 1]

/-- The aborted request does not wait any more. -/
theorem requests_scheduled_abort : ∃ s s' : Scheduler,
    abortLabels.foldlM (step 1 UInt32.ofNat) {} = some s ∧ s.deferredTasks = [1] ∧
      step 1 UInt32.ofNat s (.drainEvents {}) = some s' ∧
      1 ∉ s'.queuedTasks ++ s'.deferredTasks := by
  refine ⟨_, _, rfl, rfl, rfl, ?_⟩
  have hreach : Reachable 1 UInt32.ofNat _ := run_of_foldlM abortLabels rfl
  refine ((requests_scheduled hreach).2.2 {} _ rfl).2 1 ?_
  exact ⟨_, [], rfl, by decide, .inl (by decide)⟩

/-- A full thread leaves an aborted request waiting when the message was drained before the
request was scheduled. -/
theorem aborted_left_waiting : ¬ ∀ max asyncHttpId s answers s', Reachable max asyncHttpId s →
    step max asyncHttpId s (.drainEvents answers) = some s' →
    ∀ http pre mid, s.log = pre ++ .shutdownScheduled http :: mid → .aborted http ∈ pre →
      http ∉ s'.queuedTasks ++ s'.deferredTasks := by
  intro h
  have hreach : Reachable 1 UInt32.ofNat _ := run_of_foldlM
    [.schedule 0, .drainEvents {}, .abort 1, .scheduleShutdown 1, .drainEvents {}, .schedule 1] rfl
  have hgone := h _ _ _ {} _ hreach rfl 1 [.scheduled 0, .started 0 false 0, .drained, .aborted 1]
    [.drained, .scheduled 1] rfl (by decide)
  exact absurd hgone (by decide)

end Scheduler

end TorOnion
