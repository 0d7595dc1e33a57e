import Mathlib.Algebra.BigOperators.Group.Finset.Basic
import Mathlib.Algebra.Order.BigOperators.Group.Finset
import Mathlib.Data.Fintype.Basic
import Mathlib.Tactic
import TorOnion.HttpThread.Requests

/-!
# No request is left waiting

The scheduler of `http_thread.rs` runs only when the thread is awake, so whoever gives it
something to do has to wake it: `schedule` and `schedule_shutdown` call `wakeup` at their end, and
`on_async_http_callback` wakes the loop when a request waits and fewer than the maximum are
active.  `wakeup` does nothing before the thread has stored `has_awoken`.

A request waits for one of three: for its producer, which is still to push it or to wake the
thread; for a wake-up that is pending, or the drain that it starts; or, when as many requests are
active as may be, for one of them to complete (`Inv.signalled`).  The state is the scheduler with
the threads around it, and every step is a step of the scheduler or leaves it alone
(`scheduler_of_step`), so what holds of the scheduler's runs holds here.

As in the module of the scheduler a drain is one step.  The callbacks that run during a drain may
wake the loop; one does so only while a request waits that may be started, and then the same drain
starts it.
-/

namespace TorOnion

namespace HttpThreadLoop

/-- Where a producer is. -/
inductive ProducerPc
  /-- In no call, or past its end. -/
  | idle
  /-- In the loop of `schedule`, with what it has still to push.  With nothing left, and in
  `schedule_shutdown` after its lock section: before `wakeup` loads `has_awoken`. -/
  | scheduling (rest : List AsyncHttp)
  /-- Before `us_wakeup_loop`: the load has returned true. -/
  | waking
  deriving DecidableEq

/-- The requests that a producer has still to push. -/
def ProducerPc.batch : ProducerPc → List AsyncHttp
  | scheduling rest => rest
  | _ => []

/-- Where the HTTP thread is. -/
inductive ThreadPc
  /-- In `on_start`, before the store of `has_awoken`. -/
  | starting
  /-- In `process_events`, before `drain_events`. -/
  | draining
  /-- In `tick`. -/
  | parked
  deriving DecidableEq

end HttpThreadLoop

open HttpThreadLoop in
/-- The scheduler with the threads that use it.  `wakePending` says that the loop was woken and no
`tick` has returned for it. -/
structure HttpThreadLoop (ι : Type*) where
  scheduler : Scheduler := {}
  hasAwoken : Bool := false
  wakePending : Bool := false
  thread : ThreadPc := .starting
  producer : ι → ProducerPc := fun _ => .idle

namespace HttpThreadLoop

open Scheduler (DrainAnswers scheduled started)

variable {ι : Type*}

/-! ## The source -/

/-- The test of `on_async_http_callback`: a request waits that may be started. -/
def wakesLoop (max : ℕ) (s : Scheduler) : Bool :=
  (!s.queuedTasks.isEmpty || !s.deferredTasks.isEmpty) && decide (s.activeRequestsCount < max)

/-- What the threads do, and the events that make `tick` return. -/
inductive Label (ι : Type*)
  /-- `schedule` is called with a batch. -/
  | schedule (i : ι) (batch : List AsyncHttp)
  /-- `schedule_shutdown`, up to its call of `wakeup`. -/
  | scheduleShutdown (i : ι) (http : AsyncHttp)
  | abort (http : AsyncHttp)
  /-- One round of the loop of `schedule`. -/
  | pushTask (i : ι)
  /-- The load of `wakeup`. -/
  | loadAwoken (i : ι)
  /-- The call of `us_wakeup_loop`. -/
  | wakeupLoop (i : ι)
  /-- `on_start` stores `has_awoken`. -/
  | start
  /-- `drain_events`, and whether a callback wakes the loop meanwhile. -/
  | drainEvents (answers : DrainAnswers) (wakes : Bool)
  /-- `tick` returns for a wake-up. -/
  | tick
  /-- `tick` returns for something else. -/
  | otherEvent
  /-- In `tick`, a request calls back for the last time. -/
  | complete
  /-- In `tick`, a request that has more to come calls back. -/
  | progress

/-- A batch can be scheduled: there is something in it (`schedule` returns at once otherwise), and
none of its requests is in another call or was in an earlier one. -/
def CanSchedule (s : HttpThreadLoop ι) (batch : List AsyncHttp) : Prop :=
  batch ≠ [] ∧ batch.Nodup ∧
    ∀ http ∈ batch, http ∉ scheduled s.scheduler.log ∧ ∀ j, http ∉ (s.producer j).batch

instance [Fintype ι] (s : HttpThreadLoop ι) (batch : List AsyncHttp) :
    Decidable (s.CanSchedule batch) := by
  unfold CanSchedule
  infer_instance

/-- A producer goes on. -/
def setProducer [DecidableEq ι] (s : HttpThreadLoop ι) (i : ι) (pc : ProducerPc) :
    HttpThreadLoop ι :=
  { s with producer := Function.update s.producer i pc }

section Steps

variable [Fintype ι] [DecidableEq ι] (max : ℕ) (asyncHttpId : AsyncHttp → UInt32)

/-- One step. -/
def step (s : HttpThreadLoop ι) : Label ι → Option (HttpThreadLoop ι)
  | .schedule i batch =>
      if s.producer i = .idle ∧ s.CanSchedule batch then some (s.setProducer i (.scheduling batch))
      else none
  | .scheduleShutdown i http =>
      if s.producer i = .idle then
        (s.scheduler.step max asyncHttpId (.scheduleShutdown http)).map fun scheduler =>
          { s with scheduler }.setProducer i (.scheduling [])
      else none
  | .abort http =>
      (s.scheduler.step max asyncHttpId (.abort http)).map fun scheduler => { s with scheduler }
  | .pushTask i =>
      match s.producer i with
      | .scheduling (http :: rest) =>
          (s.scheduler.step max asyncHttpId (.schedule http)).map fun scheduler =>
            { s with scheduler }.setProducer i (.scheduling rest)
      | _ => none
  | .loadAwoken i =>
      if s.producer i = .scheduling [] then
        some (s.setProducer i (if s.hasAwoken then .waking else .idle))
      else none
  | .wakeupLoop i =>
      if s.producer i = .waking then some ({ s with wakePending := true }.setProducer i .idle)
      else none
  | .start =>
      if s.thread = .starting then some { s with hasAwoken := true, thread := .draining } else none
  | .drainEvents answers wakes =>
      if s.thread = .draining then
        (s.scheduler.step max asyncHttpId (.drainEvents answers)).bind fun scheduler =>
          if wakes = true → started scheduler.log ≠ started s.scheduler.log then
            some { s with
              scheduler
              wakePending := s.wakePending || wakes
              thread := .parked }
          else none
      else none
  | .tick =>
      if s.thread = .parked ∧ s.wakePending = true then
        some { s with wakePending := false, thread := .draining }
      else none
  | .otherEvent => if s.thread = .parked then some { s with thread := .draining } else none
  | .complete =>
      if s.thread = .parked then
        (s.scheduler.step max asyncHttpId .complete).map fun scheduler =>
          { s with scheduler, wakePending := s.wakePending || wakesLoop max scheduler }
      else none
  | .progress =>
      if s.thread = .parked ∧ 0 < s.scheduler.activeRequestsCount then
        some { s with wakePending := s.wakePending || wakesLoop max s.scheduler }
      else none

/-- The states that runs arrive at. -/
def Reachable (s : HttpThreadLoop ι) : Prop :=
  Relation.ReflTransGen (fun s t => ∃ label, step max asyncHttpId s label = some t) {} s

end Steps

/-- A step that finishes what was begun: no new call, no event from outside, and no callback of a
request that goes on. -/
def Label.Finishing : Label ι → Prop
  | schedule _ _ | scheduleShutdown _ _ | abort _ | otherEvent | progress => False
  | _ => True

/-! ## What a step can do -/

section Steps

variable [DecidableEq ι] {max : ℕ} {asyncHttpId : AsyncHttp → UInt32} {s t : HttpThreadLoop ι}
  {label : Label ι}

/-- The steps, by name. -/
inductive Step (max : ℕ) (asyncHttpId : AsyncHttp → UInt32) (s : HttpThreadLoop ι) :
    Label ι → HttpThreadLoop ι → Prop
  | schedule (i : ι) (batch : List AsyncHttp) (hpc : s.producer i = .idle)
      (hcan : s.CanSchedule batch) :
      Step max asyncHttpId s (.schedule i batch) (s.setProducer i (.scheduling batch))
  | scheduleShutdown (i : ι) (http : AsyncHttp) (hpc : s.producer i = .idle)
      (scheduler : Scheduler)
      (hstep : s.scheduler.step max asyncHttpId (.scheduleShutdown http) = some scheduler) :
      Step max asyncHttpId s (.scheduleShutdown i http)
        ({ s with scheduler }.setProducer i (.scheduling []))
  | abort (http : AsyncHttp) (scheduler : Scheduler)
      (hstep : s.scheduler.step max asyncHttpId (.abort http) = some scheduler) :
      Step max asyncHttpId s (.abort http) { s with scheduler }
  | pushTask (i : ι) (http : AsyncHttp) (rest : List AsyncHttp)
      (hpc : s.producer i = .scheduling (http :: rest)) (scheduler : Scheduler)
      (hstep : s.scheduler.step max asyncHttpId (.schedule http) = some scheduler) :
      Step max asyncHttpId s (.pushTask i) ({ s with scheduler }.setProducer i (.scheduling rest))
  | loadAwoken (i : ι) (hpc : s.producer i = .scheduling []) :
      Step max asyncHttpId s (.loadAwoken i)
        (s.setProducer i (if s.hasAwoken then .waking else .idle))
  | wakeupLoop (i : ι) (hpc : s.producer i = .waking) :
      Step max asyncHttpId s (.wakeupLoop i) ({ s with wakePending := true }.setProducer i .idle)
  | start (hpc : s.thread = .starting) :
      Step max asyncHttpId s .start { s with hasAwoken := true, thread := .draining }
  | drainEvents (answers : DrainAnswers) (wakes : Bool) (hpc : s.thread = .draining)
      (scheduler : Scheduler)
      (hstep : s.scheduler.step max asyncHttpId (.drainEvents answers) = some scheduler)
      (hwakes : wakes = true → started scheduler.log ≠ started s.scheduler.log) :
      Step max asyncHttpId s (.drainEvents answers wakes)
        { s with scheduler, wakePending := s.wakePending || wakes, thread := .parked }
  | tick (hpc : s.thread = .parked) (hwake : s.wakePending = true) :
      Step max asyncHttpId s .tick { s with wakePending := false, thread := .draining }
  | otherEvent (hpc : s.thread = .parked) :
      Step max asyncHttpId s .otherEvent { s with thread := .draining }
  | complete (hpc : s.thread = .parked) (scheduler : Scheduler)
      (hstep : s.scheduler.step max asyncHttpId .complete = some scheduler) :
      Step max asyncHttpId s .complete
        { s with scheduler, wakePending := s.wakePending || wakesLoop max scheduler }
  | progress (hpc : s.thread = .parked) (hactive : 0 < s.scheduler.activeRequestsCount) :
      Step max asyncHttpId s .progress
        { s with wakePending := s.wakePending || wakesLoop max s.scheduler }

lemma step_cases [Fintype ι] (h : s.step max asyncHttpId label = some t) :
    Step max asyncHttpId s label t := by
  cases label with
  | schedule i batch =>
      obtain ⟨⟨hpc, hcan⟩, ⟨⟩⟩ := Option.ite_none_right_eq_some.mp h
      exact .schedule i batch hpc hcan
  | scheduleShutdown i http =>
      obtain ⟨hpc, h⟩ := Option.ite_none_right_eq_some.mp h
      obtain ⟨scheduler, hstep, rfl⟩ := Option.map_eq_some_iff.mp h
      exact .scheduleShutdown i http hpc scheduler hstep
  | abort http =>
      simp only [step] at h
      obtain ⟨scheduler, hstep, rfl⟩ := Option.map_eq_some_iff.mp h
      exact .abort http scheduler hstep
  | pushTask i =>
      simp only [step] at h
      split at h
      · rename_i http rest hpc
        obtain ⟨scheduler, hstep, rfl⟩ := Option.map_eq_some_iff.mp h
        exact .pushTask i http rest hpc scheduler hstep
      · cases h
  | loadAwoken i =>
      obtain ⟨hpc, ⟨⟩⟩ := Option.ite_none_right_eq_some.mp h
      exact .loadAwoken i hpc
  | wakeupLoop i =>
      obtain ⟨hpc, ⟨⟩⟩ := Option.ite_none_right_eq_some.mp h
      exact .wakeupLoop i hpc
  | start =>
      obtain ⟨hpc, ⟨⟩⟩ := Option.ite_none_right_eq_some.mp h
      exact .start hpc
  | drainEvents answers wakes =>
      obtain ⟨hpc, h⟩ := Option.ite_none_right_eq_some.mp h
      obtain ⟨scheduler, hstep, h⟩ := Option.bind_eq_some_iff.mp h
      obtain ⟨hwakes, ⟨⟩⟩ := Option.ite_none_right_eq_some.mp h
      exact .drainEvents answers wakes hpc scheduler hstep hwakes
  | tick =>
      obtain ⟨⟨hpc, hwake⟩, ⟨⟩⟩ := Option.ite_none_right_eq_some.mp h
      exact .tick hpc hwake
  | otherEvent =>
      obtain ⟨hpc, ⟨⟩⟩ := Option.ite_none_right_eq_some.mp h
      exact .otherEvent hpc
  | complete =>
      obtain ⟨hpc, h⟩ := Option.ite_none_right_eq_some.mp h
      obtain ⟨scheduler, hstep, rfl⟩ := Option.map_eq_some_iff.mp h
      exact .complete hpc scheduler hstep
  | progress =>
      obtain ⟨⟨hpc, hactive⟩, ⟨⟩⟩ := Option.ite_none_right_eq_some.mp h
      exact .progress hpc hactive

/-- The loop refines the scheduler: a step is a step of the scheduler, or leaves it alone. -/
lemma scheduler_of_step (h : Step max asyncHttpId s label t) :
    t.scheduler = s.scheduler ∨
      ∃ label', s.scheduler.step max asyncHttpId label' = some t.scheduler := by
  cases h with
  | schedule i batch hpc hcan => exact .inl rfl
  | scheduleShutdown i http hpc scheduler hstep => exact .inr ⟨_, hstep⟩
  | abort http scheduler hstep => exact .inr ⟨_, hstep⟩
  | pushTask i http rest hpc scheduler hstep => exact .inr ⟨_, hstep⟩
  | loadAwoken i hpc => exact .inl rfl
  | wakeupLoop i hpc => exact .inl rfl
  | start hpc => exact .inl rfl
  | drainEvents answers wakes hpc scheduler hstep hwakes => exact .inr ⟨_, hstep⟩
  | tick hpc hwake => exact .inl rfl
  | otherEvent hpc => exact .inl rfl
  | complete hpc scheduler hstep => exact .inr ⟨_, hstep⟩
  | progress hpc hactive => exact .inl rfl

/-! ## Requests are pushed once -/

/-- The requests that are still to be pushed are new, and no two producers have the same. -/
structure Fresh (s : HttpThreadLoop ι) : Prop where
  nodup : ∀ i, (s.producer i).batch.Nodup
  disjoint : ∀ i j, i ≠ j → (s.producer i).batch.Disjoint (s.producer j).batch
  new : ∀ i, ∀ http ∈ (s.producer i).batch, http ∉ scheduled s.scheduler.log

omit [DecidableEq ι] in
/-- Nothing new is handed over or pushed. -/
lemma Fresh.mono (hs : s.Fresh) (hbatch : ∀ i, (t.producer i).batch.Sublist (s.producer i).batch)
    (hscheduled : scheduled t.scheduler.log = scheduled s.scheduler.log) : t.Fresh := by
  refine ⟨fun i => (hs.nodup i).sublist (hbatch i), fun i j hij => ?_, fun i http hmem => ?_⟩
  · intro http hi hj
    exact hs.disjoint i j hij ((hbatch i).subset hi) ((hbatch j).subset hj)
  · rw [hscheduled]
    exact hs.new i http ((hbatch i).subset hmem)

/-- A producer that goes on with less changes nobody's batch but its own. -/
lemma batch_setProducer_sublist (i : ι) (pc : ProducerPc)
    (h : pc.batch.Sublist (s.producer i).batch) (j : ι) :
    ((s.setProducer i pc).producer j).batch.Sublist (s.producer j).batch := by
  by_cases hj : j = i
  · subst hj
    simpa [setProducer] using h
  · simp [setProducer, hj]

lemma Fresh.schedule (hs : s.Fresh) {i : ι} {batch : List AsyncHttp} (hcan : s.CanSchedule batch) :
    (s.setProducer i (.scheduling batch)).Fresh := by
  obtain ⟨-, hnodup, hnew⟩ := hcan
  have hself : ((s.setProducer i (.scheduling batch)).producer i).batch = batch := by
    simp [setProducer, ProducerPc.batch]
  have hother : ∀ {j}, j ≠ i →
      ((s.setProducer i (.scheduling batch)).producer j).batch = (s.producer j).batch := by
    intro j hj
    simp [setProducer, hj]
  refine ⟨fun j => ?_, fun j k hjk => ?_, fun j http hmem => ?_⟩
  · by_cases hj : j = i
    · rw [hj, hself]
      exact hnodup
    · rw [hother hj]
      exact hs.nodup j
  · by_cases hj : j = i
    · subst hj
      rw [hother hjk.symm, hself]
      exact fun http hmem => (hnew http hmem).2 k
    · rw [hother hj]
      by_cases hk : k = i
      · rw [hk, hself]
        exact fun http hmem hbatch => (hnew http hbatch).2 j hmem
      · rw [hother hk]
        exact hs.disjoint j k hjk
  · by_cases hj : j = i
    · rw [hj, hself] at hmem
      exact (hnew http hmem).1
    · rw [hother hj] at hmem
      exact hs.new j http hmem

lemma Fresh.pushTask (hs : s.Fresh) {i : ι} {http : AsyncHttp} {rest : List AsyncHttp}
    {scheduler : Scheduler} (hpc : s.producer i = .scheduling (http :: rest))
    (hscheduled : scheduled scheduler.log = scheduled s.scheduler.log ++ [http]) :
    ({ s with scheduler }.setProducer i (.scheduling rest)).Fresh := by
  have hbatch : (s.producer i).batch = http :: rest := by rw [hpc, ProducerPc.batch]
  set t : HttpThreadLoop ι := { s with scheduler }.setProducer i (.scheduling rest) with ht
  have hsub : ∀ j, (t.producer j).batch.Sublist (s.producer j).batch :=
    batch_setProducer_sublist (s := s) i (.scheduling rest)
      (hbatch ▸ List.sublist_cons_self http rest)
  refine ⟨fun j => (hs.nodup j).sublist (hsub j), fun j k hjk => ?_, fun j http' hmem => ?_⟩
  · exact fun http' hj hk => hs.disjoint j k hjk ((hsub j).subset hj) ((hsub k).subset hk)
  · change http' ∉ scheduled scheduler.log
    rw [hscheduled, List.mem_append, List.mem_singleton, not_or]
    refine ⟨hs.new j http' ((hsub j).subset hmem), ?_⟩
    -- the request that was pushed is in no batch any more
    rintro rfl
    by_cases hj : j = i
    · subst hj
      have hnodup := hs.nodup j
      rw [hbatch] at hnodup
      refine (List.nodup_cons.mp hnodup).1 ?_
      simpa [ht, setProducer, ProducerPc.batch] using hmem
    · refine hs.disjoint j i hj ((hsub j).subset hmem) ?_
      rw [hbatch]
      exact List.mem_cons_self

/-! ## What the scheduler does in a step -/

section Scheduler

variable {s t : Scheduler}

lemma scheduled_of_schedule {http : AsyncHttp}
    (h : s.step max asyncHttpId (.schedule http) = some t) :
    scheduled t.log = scheduled s.log ++ [http] := by
  simp only [Scheduler.step] at h
  split_ifs at h
  obtain rfl := Option.some.inj h
  exact Scheduler.scheduled_append _ _

/-- Only `schedule` adds to what was scheduled. -/
lemma scheduled_of_step (hkept : s.Kept max s.queuedTasks) {label : Scheduler.Label}
    (hlabel : ∀ http, label ≠ .schedule http) (h : s.step max asyncHttpId label = some t) :
    scheduled t.log = scheduled s.log := by
  cases label with
  | schedule http => exact absurd rfl (hlabel http)
  | abort http =>
      obtain rfl := Option.some.inj h
      exact (Scheduler.scheduled_append _ _).trans (List.append_nil _)
  | scheduleShutdown http =>
      obtain rfl := Option.some.inj h
      exact (Scheduler.scheduled_append _ _).trans (List.append_nil _)
  | complete =>
      simp only [Scheduler.step] at h
      split_ifs at h
      obtain rfl := Option.some.inj h
      rfl
  | drainEvents answers =>
      simp only [Scheduler.step] at h
      split_ifs at h
      obtain rfl := Option.some.inj h
      obtain ⟨new, hlog, hnew, -⟩ := Scheduler.drainEvents_log answers hkept
      have hnone : scheduled new = [] := by
        refine List.filterMap_eq_nil_iff.mpr fun event hmem => ?_
        obtain ⟨_, _, _, rfl⟩ := hnew event hmem
        rfl
      rw [hlog, Scheduler.scheduled_append, Scheduler.scheduled_append, hnone, List.append_nil]
      exact List.append_nil _

/-- What a drain has to look at: a request that may be started, or a shutdown message. -/
def NeedsDrain (max : ℕ) (s : Scheduler) : Prop :=
  s.waiting ≠ [] ∧ s.activeRequestsCount < max ∨ s.queuedShutdowns ≠ []

lemma wakesLoop_eq_true : wakesLoop max s = true ↔
    s.waiting ≠ [] ∧ s.activeRequestsCount < max := by
  have hempty : ∀ l : List AsyncHttp, (!l.isEmpty) = true ↔ l ≠ [] := by simp
  have hwaiting : s.waiting ≠ [] ↔ s.queuedTasks ≠ [] ∨ s.deferredTasks ≠ [] := by
    rw [Scheduler.waiting, Ne, List.append_eq_nil_iff, not_and_or, or_comm]
  rw [wakesLoop, Bool.and_eq_true, Bool.or_eq_true, hempty, hempty, decide_eq_true_iff, hwaiting]

/-- A drain leaves nothing that it would have to look at. -/
lemma not_needsDrain_of_drain (hkept : s.Kept max s.queuedTasks) {answers : DrainAnswers}
    (h : s.step max asyncHttpId (.drainEvents answers) = some t) : ¬NeedsDrain max t := by
  simp only [Scheduler.step] at h
  split_ifs at h
  obtain rfl := Option.some.inj h
  have hshutdowns : (s.drainEvents max answers).queuedShutdowns = [] := by
    have hbefore : (s.beforeStarts answers).Kept max (s.beforeStarts answers).queuedTasks :=
      hkept.beforeStarts
    rcases Scheduler.drainEvents_cases max answers s with ⟨-, -, heq⟩ | heq
    · rw [heq]
      rfl
    · rw [heq]
      obtain ⟨-, -, hframe⟩ := Scheduler.startWaiting_spec answers.finishes hbefore
      exact hframe.queuedShutdowns
  rintro (⟨hwaiting, hroom⟩ | hmessage)
  · have := hkept.drainEvents.2 hwaiting
    omega
  · exact hmessage hshutdowns

/-- A request that completes, or none, brings no shutdown message. -/
lemma NeedsDrain.of_complete (hneeds : NeedsDrain max t)
    (h : s.step max asyncHttpId .complete = some t) :
    wakesLoop max t = true ∨ NeedsDrain max s := by
  rcases hneeds with hroom | hmessage
  · exact .inl (wakesLoop_eq_true.mpr hroom)
  · simp only [Scheduler.step] at h
    split_ifs at h
    obtain rfl := Option.some.inj h
    exact .inr (.inr hmessage)

end Scheduler

/-! ## The invariant -/

/-- What every step keeps.  A parked thread that would have something to look at has a wake-up
pending, or a producer that is still to wake it. -/
structure Inv (max : ℕ) (asyncHttpId : AsyncHttp → UInt32) (s : HttpThreadLoop ι) : Prop where
  reachable : Scheduler.Reachable max asyncHttpId s.scheduler
  fresh : s.Fresh
  awoken : s.thread ≠ .starting → s.hasAwoken = true
  signalled : s.thread = .parked → NeedsDrain max s.scheduler →
    s.wakePending = true ∨ ∃ i, s.producer i ≠ .idle

omit [DecidableEq ι] in
lemma Inv.kept (hs : s.Inv max asyncHttpId) : s.scheduler.Kept max s.scheduler.queuedTasks :=
  (Scheduler.kept_of_reachable hs.reachable).1

omit [DecidableEq ι] in
lemma inv_init : ({} : HttpThreadLoop ι).Inv max asyncHttpId where
  reachable := .refl
  fresh := ⟨fun _ => List.nodup_nil, fun _ _ _ => List.disjoint_nil_left _,
    by simp [ProducerPc.batch]⟩
  awoken h := absurd rfl h
  signalled h := nomatch h

lemma Fresh.step (hs : s.Inv max asyncHttpId) (h : Step max asyncHttpId s label t) : t.Fresh := by
  have hless : ∀ (i : ι) (pc : ProducerPc), pc.batch = [] → ∀ j,
      ((s.setProducer i pc).producer j).batch.Sublist (s.producer j).batch :=
    fun i pc hpc => batch_setProducer_sublist i pc (hpc ▸ List.nil_sublist _)
  cases h with
  | schedule i batch hpc hcan => exact hs.fresh.schedule hcan
  | scheduleShutdown i http hpc scheduler hstep =>
      exact hs.fresh.mono (hless i _ rfl) (scheduled_of_step hs.kept (by simp) hstep)
  | abort http scheduler hstep =>
      exact hs.fresh.mono (fun _ => List.Sublist.refl _) (scheduled_of_step hs.kept (by simp) hstep)
  | pushTask i http rest hpc scheduler hstep =>
      exact hs.fresh.pushTask hpc (scheduled_of_schedule hstep)
  | loadAwoken i hpc =>
      refine hs.fresh.mono (hless i _ ?_) rfl
      split_ifs <;> rfl
  | wakeupLoop i hpc => exact hs.fresh.mono (hless i _ rfl) rfl
  | start hpc => exact hs.fresh.mono (fun _ => List.Sublist.refl _) rfl
  | drainEvents answers wakes hpc scheduler hstep hwakes =>
      exact hs.fresh.mono (fun _ => List.Sublist.refl _) (scheduled_of_step hs.kept (by simp) hstep)
  | tick hpc hwake => exact hs.fresh.mono (fun _ => List.Sublist.refl _) rfl
  | otherEvent hpc => exact hs.fresh.mono (fun _ => List.Sublist.refl _) rfl
  | complete hpc scheduler hstep =>
      exact hs.fresh.mono (fun _ => List.Sublist.refl _) (scheduled_of_step hs.kept (by simp) hstep)
  | progress hpc hactive => exact hs.fresh.mono (fun _ => List.Sublist.refl _) rfl

/-- A producer that was moved on and not to its end is still to wake the thread. -/
lemma exists_ne_idle (i : ι) {pc : ProducerPc} (hpc : pc ≠ .idle) :
    ∃ j, (s.setProducer i pc).producer j ≠ .idle :=
  ⟨i, by simpa [setProducer] using hpc⟩

lemma awoken_step (hs : s.Inv max asyncHttpId) (h : Step max asyncHttpId s label t)
    (hpc : t.thread ≠ .starting) : t.hasAwoken = true := by
  cases h with
  | start _ => rfl
  | drainEvents answers wakes hdraining _ _ _ => exact hs.awoken (by simp [hdraining])
  | tick hparked _ => exact hs.awoken (by simp [hparked])
  | otherEvent hparked => exact hs.awoken (by simp [hparked])
  | complete hparked _ _ => exact hs.awoken (by simp [hparked])
  | progress hparked _ => exact hs.awoken (by simp [hparked])
  | _ => exact hs.awoken hpc

lemma signalled_step (hs : s.Inv max asyncHttpId) (h : Step max asyncHttpId s label t)
    (hparked : t.thread = .parked) (hneeds : NeedsDrain max t.scheduler) :
    t.wakePending = true ∨ ∃ i, t.producer i ≠ .idle := by
  cases h with
  | schedule i batch hpc hcan => exact .inr (exists_ne_idle i nofun)
  | scheduleShutdown i http hpc scheduler hstep => exact .inr (exists_ne_idle i nofun)
  | abort http scheduler hstep =>
      obtain rfl := Option.some.inj hstep
      exact hs.signalled hparked hneeds
  | pushTask i http rest hpc scheduler hstep => exact .inr (exists_ne_idle i nofun)
  | loadAwoken i hpc =>
      -- a thread that is parked has stored `has_awoken`
      have hawoken : s.hasAwoken = true := by
        refine hs.awoken ?_
        rw [show s.thread = .parked from hparked]
        nofun
      rw [hawoken]
      exact .inr (exists_ne_idle i nofun)
  | wakeupLoop i hpc => exact .inl rfl
  | start hpc => cases hparked
  | drainEvents answers wakes hpc scheduler hstep hwakes =>
      exact absurd hneeds (not_needsDrain_of_drain hs.kept hstep)
  | tick hpc hwake => cases hparked
  | otherEvent hpc => cases hparked
  | complete hpc scheduler hstep =>
      rcases hneeds.of_complete hstep with hwakes | hneeds
      · exact .inl (Bool.or_eq_true_iff.mpr (.inr hwakes))
      · exact (hs.signalled hpc hneeds).imp_left fun hwake => Bool.or_eq_true_iff.mpr (.inl hwake)
  | progress hpc hactive =>
      exact (hs.signalled hpc hneeds).imp_left fun hwake => Bool.or_eq_true_iff.mpr (.inl hwake)

/-- The step lemma. -/
lemma Inv.step (hs : s.Inv max asyncHttpId) (h : Step max asyncHttpId s label t) :
    t.Inv max asyncHttpId := by
  refine ⟨?_, Fresh.step hs h, awoken_step hs h, signalled_step hs h⟩
  rcases scheduler_of_step h with heq | hstep
  · rw [heq]
    exact hs.reachable
  · exact hs.reachable.tail hstep

/-- The run lemma. -/
lemma Reachable.inv [Fintype ι] (h : s.Reachable max asyncHttpId) : s.Inv max asyncHttpId :=
  invariant_of_run (fun _ _ hs ⟨_, hstep⟩ => hs.step (step_cases hstep)) h inv_init

/-! ## Nothing sleeps -/

omit [DecidableEq ι] in
/-- A parked thread with no wake-up on its way is full, or nothing waits. -/
lemma Inv.full_of_parked (hs : s.Inv max asyncHttpId) (hpc : s.thread = .parked)
    (hwake : s.wakePending = false) (hidle : ∀ i, s.producer i = .idle) :
    s.scheduler.queuedShutdowns = [] ∧
      (s.scheduler.waiting ≠ [] → max ≤ s.scheduler.activeRequestsCount) := by
  have hnone : ¬NeedsDrain max s.scheduler := by
    intro hneeds
    rcases hs.signalled hpc hneeds with h | ⟨i, hi⟩
    · exact Bool.false_ne_true (hwake.symm.trans h)
    · exact hi (hidle i)
  rw [NeedsDrain, not_or, not_and, not_lt, not_not] at hnone
  exact ⟨hnone.2, hnone.1⟩

omit [DecidableEq ι] in
/-- Where the shutdown messages were drained, no request waits whose abort was requested. -/
lemma Inv.not_waiting_of_aborted (hs : s.Inv max asyncHttpId)
    (hshutdowns : s.scheduler.queuedShutdowns = []) {http : AsyncHttp}
    (haborted : Scheduler.AbortRequested s.scheduler.log http) : http ∉ s.scheduler.waiting := by
  obtain ⟨hkept, haborts⟩ := Scheduler.kept_of_reachable hs.reachable
  obtain ⟨-, -, hstarted | hqueued⟩ := haborts.seen http haborted
  · exact List.disjoint_of_nodup_append (hkept.perm.nodup_iff.mp hkept.unique) hstarted
  · rw [hshutdowns] at hqueued
    cases hqueued

/-! ## Everything is finished -/

/-- A bound on the steps a producer has left, with those of the drain that it causes and those of
the requests that it pushes. -/
def ProducerPc.stepsLeft : ProducerPc → ℕ
  | idle => 0
  | scheduling rest => 4 + 7 * rest.length
  | waking => 3

/-- A bound on the steps that the thread has left before it parks. -/
def ThreadPc.stepsLeft : ThreadPc → ℕ
  | starting => 2
  | draining => 1
  | parked => 0

/-- A bound on the steps that finish what was begun.  A request that completes may wake the loop,
and so may the drain that starts it. -/
def stepsLeft [Fintype ι] (s : HttpThreadLoop ι) : ℕ :=
  ∑ i, (s.producer i).stepsLeft + s.thread.stepsLeft + 6 * s.scheduler.waiting.length +
    3 * s.scheduler.activeRequestsCount + 2 * s.wakePending.toNat

section Scheduler

variable {s t : Scheduler} {finishes : AsyncHttp → Bool} {tasks : List AsyncHttp}

/-- A loop makes at most those active that it starts. -/
lemma foldl_active :
    (tasks.foldl (Scheduler.startOrDefer max finishes) s).activeRequestsCount +
        (started s.log).length ≤
      s.activeRequestsCount +
        (started (tasks.foldl (Scheduler.startOrDefer max finishes) s).log).length := by
  induction tasks generalizing s with
  | nil => exact le_rfl
  | cons http tasks ih =>
      have hrest := ih (s := s.startOrDefer max finishes http)
      have hfirst : (s.startOrDefer max finishes http).activeRequestsCount +
          (started s.log).length ≤ s.activeRequestsCount +
            (started (s.startOrDefer max finishes http).log).length := by
        unfold Scheduler.startOrDefer
        split_ifs
        · obtain ⟨-, hsucc, -⟩ := Scheduler.startQueuedTask_active finishes http s
          rw [Scheduler.started_startQueuedTask, List.length_append, List.length_singleton]
          omega
        · exact le_rfl
      rw [List.foldl_cons]
      omega

lemma startWaiting_active :
    (s.startWaiting max finishes).activeRequestsCount + (started s.log).length ≤
      s.activeRequestsCount + (started (s.startWaiting max finishes).log).length := by
  set s₁ := s.deferredTasks.foldl (Scheduler.startOrDefer max finishes)
    { s with hasPendingQueuedAbort := false, deferredTasks := [] } with hs₁
  have hloops : s.startWaiting max finishes = s₁.queuedTasks.foldl
      (Scheduler.startOrDefer max finishes) { s₁ with queuedTasks := [] } := rfl
  have hfirst : s₁.activeRequestsCount + (started s.log).length ≤
      s.activeRequestsCount + (started s₁.log).length := foldl_active
  have hsecond : (s.startWaiting max finishes).activeRequestsCount + (started s₁.log).length ≤
      s₁.activeRequestsCount + (started (s.startWaiting max finishes).log).length := by
    rw [hloops]
    exact foldl_active (s := { s₁ with queuedTasks := [] })
  omega

/-- A drain starts what stops waiting, and makes at most that active. -/
lemma drain_counts (hkept : s.Kept max s.queuedTasks) {answers : DrainAnswers}
    (h : s.step max asyncHttpId (.drainEvents answers) = some t) :
    t.waiting.length + (started t.log).length = s.waiting.length + (started s.log).length ∧
      t.activeRequestsCount + (started s.log).length ≤
        s.activeRequestsCount + (started t.log).length ∧
      started s.log <+: started t.log := by
  have hscheduled := scheduled_of_step hkept (by simp) h
  have hplaces : ∀ {u : Scheduler}, u.Kept max u.queuedTasks →
      (scheduled u.log).length = (started u.log).length + u.waiting.length := by
    intro u hu
    rw [hu.perm.length_eq, List.length_append]
    rfl
  have hs := hplaces hkept
  have ht := hplaces (hkept.step h)
  simp only [Scheduler.step] at h
  split_ifs at h
  obtain rfl := Option.some.inj h
  refine ⟨by rw [hscheduled] at ht; omega, ?_, ?_⟩
  · have hreturned : ∀ u : Scheduler, started u.logDrained.log = started u.log :=
      fun u => (Scheduler.started_append _ _).trans (List.append_nil _)
    have hbefore : (s.beforeStarts answers).activeRequestsCount ≤ s.activeRequestsCount :=
      Nat.sub_le _ _
    rcases Scheduler.drainEvents_cases max answers s with ⟨-, -, heq⟩ | heq
    · rw [heq, hreturned]
      exact Nat.add_le_add_right hbefore _
    · rw [heq, hreturned]
      exact startWaiting_active.trans (Nat.add_le_add_right hbefore _)
  · obtain ⟨new, hlog, -⟩ := Scheduler.drainEvents_log answers hkept
    rw [hlog, List.append_assoc, Scheduler.started_append]
    exact List.prefix_append _ _

end Scheduler

section Measure

variable [Fintype ι]

/-- Moving one producer changes the sum by what that producer has left. -/
lemma sum_stepsLeft_update (producer : ι → ProducerPc) (i : ι) (pc : ProducerPc) :
    ∑ j, (Function.update producer i pc j).stepsLeft + (producer i).stepsLeft =
      ∑ j, (producer j).stepsLeft + pc.stepsLeft := by
  have hrest : ∑ j ∈ Finset.univ.erase i, (Function.update producer i pc j).stepsLeft =
      ∑ j ∈ Finset.univ.erase i, (producer j).stepsLeft := by
    refine Finset.sum_congr rfl fun j hj => ?_
    rw [Function.update_of_ne (Finset.ne_of_mem_erase hj)]
  rw [← Finset.add_sum_erase _ _ (Finset.mem_univ i), hrest, Function.update_self,
    ← Finset.add_sum_erase _ (fun j => (producer j).stepsLeft) (Finset.mem_univ i)]
  omega

/-- Each step that finishes what was begun leaves fewer of them. -/
lemma stepsLeft_lt (hs : s.Inv max asyncHttpId) (hl : label.Finishing)
    (h : Step max asyncHttpId s label t) : t.stepsLeft < s.stepsLeft := by
  cases h with
  | schedule i batch hpc hcan => exact hl.elim
  | scheduleShutdown i http hpc scheduler hstep => exact hl.elim
  | abort http scheduler hstep => exact hl.elim
  | otherEvent hpc => exact hl.elim
  | progress hpc hactive => exact hl.elim
  | pushTask i http rest hpc scheduler hstep =>
      have hsum := sum_stepsLeft_update s.producer i (.scheduling rest)
      simp only [Scheduler.step] at hstep
      split_ifs at hstep
      obtain rfl := Option.some.inj hstep
      have hbatch : (ProducerPc.scheduling (http :: rest)).stepsLeft =
          (ProducerPc.scheduling rest).stepsLeft + 7 := by
        simp only [ProducerPc.stepsLeft, List.length_cons]
        omega
      rw [hpc, hbatch] at hsum
      simp only [stepsLeft, setProducer, Scheduler.waiting, List.length_append, List.length_cons,
        List.length_nil]
      omega
  | loadAwoken i hpc =>
      have hsum := sum_stepsLeft_update s.producer i (if s.hasAwoken then .waking else .idle)
      have hnext : (if s.hasAwoken then ProducerPc.waking else .idle).stepsLeft ≤ 3 := by
        split_ifs <;> decide
      have hlast : (ProducerPc.scheduling []).stepsLeft = 4 := rfl
      rw [hpc, hlast] at hsum
      simp only [stepsLeft, setProducer]
      omega
  | wakeupLoop i hpc =>
      have hsum := sum_stepsLeft_update s.producer i .idle
      rw [hpc, ProducerPc.stepsLeft, ProducerPc.stepsLeft] at hsum
      simp only [stepsLeft, setProducer, Bool.toNat_true]
      omega
  | start hpc =>
      simp only [stepsLeft, hpc, ThreadPc.stepsLeft]
      omega
  | drainEvents answers wakes hpc scheduler hstep hwakes =>
      obtain ⟨hwaiting, hactive, hpre⟩ := drain_counts hs.kept hstep
      have hle := hpre.length_le
      have hlt : wakes = true →
          (started s.scheduler.log).length < (started scheduler.log).length := by
        intro hwake
        refine lt_of_le_of_ne hle fun heq => hwakes hwake ?_
        exact (hpre.eq_of_length heq).symm
      simp only [stepsLeft, hpc, ThreadPc.stepsLeft]
      cases wakes with
      | false =>
          rw [Bool.or_false]
          omega
      | true =>
          have := hlt rfl
          rw [Bool.or_true, Bool.toNat_true]
          omega
  | tick hpc hwake =>
      simp only [stepsLeft, hpc, hwake, ThreadPc.stepsLeft, Bool.toNat_true, Bool.toNat_false]
      omega
  | complete hpc scheduler hstep =>
      have hwake := Bool.toNat_le (s.wakePending || wakesLoop max scheduler)
      have hcounts : scheduler.waiting = s.scheduler.waiting ∧
          scheduler.activeRequestsCount + 1 = s.scheduler.activeRequestsCount := by
        simp only [Scheduler.step] at hstep
        split_ifs at hstep with hactive
        obtain rfl := Option.some.inj hstep
        exact ⟨rfl, Nat.sub_add_cancel hactive⟩
      simp only [stepsLeft, hcounts.1]
      omega

lemma exists_step_drainEvents (max : ℕ) (asyncHttpId : AsyncHttp → UInt32)
    (h : s.thread = .draining) :
    ∃ t, s.step max asyncHttpId (.drainEvents {} false) = some t := by
  have hcan : Scheduler.CanDrain asyncHttpId {} s.scheduler :=
    ⟨Nat.zero_le _, fun _ _ _ _ _ => rfl⟩
  have hstep : s.scheduler.step max asyncHttpId (.drainEvents {}) =
      some (s.scheduler.drainEvents max {}) := if_pos hcan
  refine ⟨{ s with
    scheduler := s.scheduler.drainEvents max {}
    wakePending := s.wakePending || false
    thread := .parked }, ?_⟩
  rw [HttpThreadLoop.step, if_pos h, hstep, Option.bind_some, if_pos (by simp)]

/-- Where nothing that was begun can go on, the thread is parked for good and no request is
active. -/
lemma Inv.parked_of_finished (hs : s.Inv max asyncHttpId)
    (hdone : ∀ label : Label ι, label.Finishing → s.step max asyncHttpId label = none) :
    (s.thread = .parked ∧ s.wakePending = false ∧ ∀ i, s.producer i = .idle) ∧
      s.scheduler.activeRequestsCount = 0 := by
  have hpc : s.thread = .parked := by
    cases hpc : s.thread with
    | parked => rfl
    | starting =>
        have hstart := hdone .start trivial
        rw [HttpThreadLoop.step, if_pos hpc] at hstart
        cases hstart
    | draining =>
        obtain ⟨t, hdrain⟩ := exists_step_drainEvents max asyncHttpId hpc
        rw [hdone (.drainEvents {} false) trivial] at hdrain
        cases hdrain
  have hwake : s.wakePending = false := by
    by_contra hwake
    have htick := hdone .tick trivial
    rw [HttpThreadLoop.step, if_pos ⟨hpc, by simpa using hwake⟩] at htick
    cases htick
  have hidle : ∀ i, s.producer i = .idle := by
    intro i
    cases hproducer : s.producer i with
    | idle => rfl
    | waking =>
        have hwakeup := hdone (.wakeupLoop i) trivial
        rw [HttpThreadLoop.step, if_pos hproducer] at hwakeup
        cases hwakeup
    | scheduling rest =>
        cases rest with
        | nil =>
            have hload := hdone (.loadAwoken i) trivial
            rw [HttpThreadLoop.step, if_pos hproducer] at hload
            cases hload
        | cons http rest =>
            -- the request is new, so it can be pushed
            have hpush := hdone (.pushTask i) trivial
            have hnew : http ∉ scheduled s.scheduler.log := by
              refine hs.fresh.new i http ?_
              rw [hproducer]
              exact List.mem_cons_self
            simp only [HttpThreadLoop.step, hproducer, Scheduler.step, if_neg hnew,
              Option.map_some] at hpush
            cases hpush
  have hactive : s.scheduler.activeRequestsCount = 0 := by
    by_contra hactive
    have hcomplete := hdone .complete trivial
    rw [HttpThreadLoop.step, if_pos hpc, Scheduler.step,
      if_pos (Nat.pos_of_ne_zero hactive)] at hcomplete
    cases hcomplete
  exact ⟨⟨hpc, hwake, hidle⟩, hactive⟩

omit [Fintype ι] in
/-- A request that was handed over is pushed or is still to be pushed. -/
lemma handed_step {http : AsyncHttp} (hs : s.Inv max asyncHttpId)
    (h : Step max asyncHttpId s label t)
    (hmem : http ∈ scheduled s.scheduler.log ∨ ∃ i, http ∈ (s.producer i).batch) :
    http ∈ scheduled t.scheduler.log ∨ ∃ i, http ∈ (t.producer i).batch := by
  have hgo : ∀ {scheduler : Scheduler} {i : ι} {pc : ProducerPc},
      scheduled scheduler.log = scheduled s.scheduler.log → (s.producer i).batch = [] →
      http ∈ scheduled scheduler.log ∨
        ∃ j, http ∈ (Function.update s.producer i pc j).batch := by
    intro scheduler i pc hscheduled hbatch
    rw [hscheduled]
    refine hmem.imp_right fun ⟨j, hj⟩ => ⟨j, ?_⟩
    have hne : j ≠ i := by
      rintro rfl
      rw [hbatch] at hj
      cases hj
    rwa [Function.update_of_ne hne]
  have hidle : ∀ {i}, s.producer i = .idle → (s.producer i).batch = [] := by
    intro i hpc
    rw [hpc, ProducerPc.batch]
    nofun
  cases h with
  | schedule i batch hpc hcan => exact hgo rfl (hidle hpc)
  | scheduleShutdown i http hpc scheduler hstep =>
      exact hgo (scheduled_of_step hs.kept (by simp) hstep) (hidle hpc)
  | abort http scheduler hstep =>
      rwa [scheduled_of_step hs.kept (by simp) hstep]
  | pushTask i http' rest hpc scheduler hstep =>
      change http ∈ scheduled scheduler.log ∨ ∃ j, http ∈ (Function.update s.producer i _ j).batch
      rw [scheduled_of_schedule hstep, List.mem_append, List.mem_singleton, or_assoc]
      refine hmem.imp_right fun ⟨j, hj⟩ => ?_
      by_cases hne : j = i
      · subst hne
        rw [hpc, ProducerPc.batch, List.mem_cons] at hj
        exact hj.imp_right fun hj => ⟨j, by simpa [ProducerPc.batch] using hj⟩
      · exact .inr ⟨j, by rwa [Function.update_of_ne hne]⟩
  | loadAwoken i hpc => exact hgo rfl (by rw [hpc, ProducerPc.batch])
  | wakeupLoop i hpc =>
      refine hgo rfl ?_
      rw [hpc, ProducerPc.batch]
      nofun
  | start hpc => exact hmem
  | drainEvents answers wakes hpc scheduler hstep hwakes =>
      rwa [scheduled_of_step hs.kept (by simp) hstep]
  | tick hpc hwake => exact hmem
  | otherEvent hpc => exact hmem
  | complete hpc scheduler hstep => rwa [scheduled_of_step hs.kept (by simp) hstep]
  | progress hpc hactive => exact hmem

/-- Where nothing that was begun can go on, every request that was handed over was started. -/
lemma Inv.started_of_finished (hs : s.Inv max asyncHttpId) (hmax : 0 < max)
    (hdone : ∀ label : Label ι, label.Finishing → s.step max asyncHttpId label = none)
    {http : AsyncHttp}
    (hmem : http ∈ scheduled s.scheduler.log ∨ ∃ i, http ∈ (s.producer i).batch) :
    http ∈ started s.scheduler.log := by
  obtain ⟨⟨hpc, hwake, hidle⟩, hactive⟩ := hs.parked_of_finished hdone
  have hscheduled : http ∈ scheduled s.scheduler.log := by
    refine hmem.resolve_right ?_
    rintro ⟨i, hi⟩
    rw [hidle i] at hi
    cases hi
  have hwaiting : s.scheduler.waiting = [] := by
    by_contra hne
    have := (hs.full_of_parked hpc hwake hidle).2 hne
    omega
  refine (List.mem_append.mp (hs.kept.perm.subset hscheduled)).resolve_right ?_
  rw [show s.scheduler.deferredTasks ++ s.scheduler.queuedTasks = [] from hwaiting]
  nofun

/-- **No request is left waiting.**  In every state that a run arrives at:

* when the thread is parked, no wake-up is pending and no producer is before its own, requests
  wait only if `max` are active, and none waits whose abort was requested after it was scheduled,
  or before that but with no drain in between;
* what was begun is finished in a bounded number of steps, among them the completions of the
  active requests; every request that was given to `schedule` has been started then. -/
theorem requests_not_left_waiting (hmax : 0 < max) (h : s.Reachable max asyncHttpId) :
    (s.thread = .parked → s.wakePending = false → (∀ i, s.producer i = .idle) →
      (s.scheduler.waiting ≠ [] → max ≤ s.scheduler.activeRequestsCount) ∧
        ∀ http, Scheduler.AbortRequested s.scheduler.log http → http ∉ s.scheduler.waiting) ∧
    ∃ bound, ∀ (labels : List (Label ι)) (t : HttpThreadLoop ι),
      (∀ label ∈ labels, label.Finishing) → labels.foldlM (step max asyncHttpId) s = some t →
        labels.length ≤ bound ∧
        ((∀ label : Label ι, label.Finishing → t.step max asyncHttpId label = none) →
          ∀ http, (http ∈ scheduled s.scheduler.log ∨ ∃ i, http ∈ (s.producer i).batch) →
            http ∈ started t.scheduler.log) := by
  constructor
  · intro hpc hwake hidle
    obtain ⟨hshutdowns, hfull⟩ := h.inv.full_of_parked hpc hwake hidle
    exact ⟨hfull, fun http haborted => h.inv.not_waiting_of_aborted hshutdowns haborted⟩
  · refine ⟨s.stepsLeft, fun labels t hlabels hrun => ⟨?_, fun hdone http hmem => ?_⟩⟩
    · have hinv : ∀ (u : HttpThreadLoop ι) label v, u.Inv max asyncHttpId →
          u.step max asyncHttpId label = some v → v.Inv max asyncHttpId :=
        fun u label v hu hstep => hu.step (step_cases hstep)
      have hlt : ∀ (u : HttpThreadLoop ι) label v, u.Inv max asyncHttpId → label.Finishing →
          u.step max asyncHttpId label = some v → v.stepsLeft < u.stepsLeft :=
        fun u label v hu hl hstep => stepsLeft_lt hu hl (step_cases hstep)
      exact length_le_of_invariant hinv hlt labels hlabels hrun h.inv
    · have ht : t.Reachable max asyncHttpId := h.trans (run_of_foldlM labels hrun)
      refine ht.inv.started_of_finished hmax hdone ?_
      refine (invariant_of_run (I := fun u : HttpThreadLoop ι => u.Inv max asyncHttpId ∧
        (http ∈ scheduled u.scheduler.log ∨ ∃ i, http ∈ (u.producer i).batch))
        (fun u v hu ⟨_, hstep⟩ => ?_) (run_of_foldlM labels hrun) ⟨h.inv, hmem⟩).2
      have hstep := step_cases hstep
      exact ⟨hu.1.step hstep, handed_step hu.1 hstep hu.2⟩

/-- Two threads that schedule two requests each, when two may be active. -/
def twoBatches : List (Label Bool) :=
  [.schedule true [0, 1], .pushTask true, .start, .drainEvents {} false, .schedule false [2, 3],
    .pushTask true, .pushTask false, .loadAwoken true, .wakeupLoop true, .tick,
    .drainEvents {} false, .complete, .tick, .pushTask false, .loadAwoken false,
    .drainEvents {} false]

/-- Three requests have been started.  The fourth waits for one to complete, and starts in any
way in which what was begun is finished. -/
theorem requests_not_left_waiting_twoBatches : ∃ s : HttpThreadLoop Bool,
    twoBatches.foldlM (step 2 UInt32.ofNat) {} = some s ∧ s.scheduler.deferredTasks = [3] ∧
      ∀ (labels : List (Label Bool)) (t : HttpThreadLoop Bool),
        (∀ label ∈ labels, label.Finishing) →
        labels.foldlM (step 2 UInt32.ofNat) s = some t →
        (∀ label : Label Bool, label.Finishing → t.step 2 UInt32.ofNat label = none) →
        3 ∈ started t.scheduler.log := by
  refine ⟨_, rfl, rfl, fun labels t hlabels hrun hdone => ?_⟩
  have hreach : Reachable 2 UInt32.ofNat _ := run_of_foldlM twoBatches rfl
  obtain ⟨-, bound, hbound⟩ := requests_not_left_waiting (by decide) hreach
  exact (hbound labels t hlabels hrun).2 hdone 3 (.inl (by decide))

end Measure

end Steps

end HttpThreadLoop

end TorOnion
