import Mathlib.Data.List.TakeWhile
import Mathlib.Tactic
import TorOnion.VulkanFence.Helper

/-!
# The moves of a helper

What one step of a `World` can do, said once.  A step of `vv_helper.cpp` is a chain of *moves*:
events that change nothing else, an entry that is submitted, a fence that is destroyed unused,
entries that retire, everything retired at once, and a frame that comes, takes a task or goes.
Every invariant of the helper is proved about the moves.

The order of the generations comes first, because a move that retires entries records that every
fence among them has been reported as signalled, and that the scan of `ProcessCleanupTasks`
guarantees this (`scanFences_spec`) rests on the queue being sorted.

A move can be asked to be *flat*: tasks are then only handed out when no call is in progress.
Runs in which no task calls the helper consist of flat moves.
-/

namespace TorOnion

open Relation (ReflTransGen)

/-! ## Logs -/

@[simp] lemma submissions_append (log new : List Event) :
    submissions (log ++ new) = submissions log ++ submissions new :=
  List.filterMap_append

@[simp] lemma ranTasks_append (log new : List Event) :
    ranTasks (log ++ new) = ranTasks log ++ ranTasks new :=
  List.filterMap_append

@[simp] lemma submissions_destroyFences (site : DestroySite) (entries : List TasksForFence) :
    submissions (World.destroyFences site entries) = [] := by
  simp [submissions, World.destroyFences, List.filterMap_map, Event.entry?, Function.comp_def]

@[simp] lemma ranTasks_destroyFences (site : DestroySite) (entries : List TasksForFence) :
    ranTasks (World.destroyFences site entries) = [] := by
  simp [ranTasks, World.destroyFences, List.filterMap_map, Event.task?, Function.comp_def]

lemma mem_submissions {log : List Event} {entry : TasksForFence} :
    entry ∈ submissions log ↔ .submitted entry ∈ log := by
  simp only [submissions, List.mem_filterMap]
  constructor
  · rintro ⟨event, hmem, hentry⟩
    cases event <;> simp only [Event.entry?, reduceCtorEq, Option.some.injEq] at hentry
    exact hentry ▸ hmem
  · exact fun h => ⟨_, h, rfl⟩

lemma mem_destroyFences {site : DestroySite} {entries : List TasksForFence} {event : Event} :
    event ∈ World.destroyFences site entries ↔
      ∃ fence, event = .destroyFence fence site ∧ ∃ e ∈ entries, e.fence = some fence := by
  simp only [World.destroyFences, List.mem_map, List.mem_filterMap]
  exact ⟨fun ⟨fence, h, heq⟩ => ⟨fence, heq.symm, h⟩, fun ⟨fence, heq, h⟩ => ⟨fence, h, heq.symm⟩⟩

/-! ## Moves -/

/-- The handle a call will ask about when its tasks have run. -/
def Continuation.handle? : Continuation → Option FenceHandle
  | .done => none
  | .hasPassed handle => some handle
  | .wait handle => some handle
  | .waitDone _ _ => none

namespace World

/-- The events that change nothing but the log, and what is known when they happen. -/
def Allowed (w : World) : Event → Prop
  | .signal _ => True
  | .processCalled _ _ => True
  | .getFenceStatus fence result => result = .success → .signal fence ∈ w.log
  | .hasPassed handle result => w.issued handle ∧ result = w.passed handle
  | .waitForFences fence _ =>
      ∃ handle, w.issued handle ∧ handle.fence = fence ∧ w.passed handle = false
  | .waitReturned _ _ => True
  | _ => False

/-- The main branch of `PerformImmediateCleanup`. -/
def retireAll (deviceLost : Bool) (next : Continuation) (w : World) : World :=
  { w with
    currentGeneration := w.nextGeneration - 1
    cleanupTasks := []
    tasksPendingFence := []
    log := w.log ++ .queueWaitIdle deviceLost :: destroyFences .immediate w.cleanupTasks
    stack := ⟨w.cleanupTasks.flatMap TasksForFence.tasks ++ w.tasksPendingFence, false, true,
      deviceLost, next⟩ :: w.stack }

/-- Every fence of the queue up to a generation has been reported as signalled. -/
def Reported (w : World) (retired : ℕ) : Prop :=
  ∀ e ∈ w.cleanupTasks, e.generationId ≤ retired → ∀ fence, e.fence = some fence →
    .getFenceStatus fence .success ∈ w.log

/-- What a helper does at a time.  Flat moves hand out tasks only when no call is in
progress. -/
inductive Move (flat : Bool) : World → World → Prop
  | event (w : World) (event : Event) (h : w.Allowed event) : Move flat w (w.emit [event])
  | enqueueTask (w : World) : Move flat w w.enqueueCleanupTask
  | createFence (w : World) :
      Move flat w { w with clientFences := w.clientFences ++ [w.nextFence],
                           nextFence := w.nextFence + 1 }
  | submitNull (w : World) : Move flat w (w.enqueueFence none)
  | submitClient (w : World) (fence : Fence) (h : fence ∈ w.clientFences) :
      Move flat w
        ({ w with clientFences := w.clientFences.erase fence }.enqueueFence (some fence))
  | submitFresh (w : World) :
      Move flat w ({ w with nextFence := w.nextFence + 1 }.enqueueFence (some w.nextFence))
  | submitCallback (w : World) :
      Move flat w { w.enqueueFence none with callbacks := w.callbacks ++ [w.nextGeneration] }
  | failFence (w : World) :
      Move flat w
        ({ w with nextFence := w.nextFence + 1 }.emit [.destroyFence w.nextFence .submitFailed])
  | retireAll (w : World) (deviceLost : Bool) (next : Continuation)
      (hflat : flat = true → w.stack = []) (hnext : ∀ handle ∈ next.handle?, w.issued handle) :
      Move flat w (w.retireAll deviceLost next)
  | retire (w : World) (retired : ℕ) (next : Continuation)
      (hflat : flat = true → w.stack = []) (hnext : ∀ handle ∈ next.handle?, w.issued handle)
      (hlow : w.currentGeneration ≤ retired) (hhigh : retired < w.nextGeneration)
      (hreported : w.Reported retired) : Move flat w (w.retire retired next)
  | push (w : World) (next : Continuation) (hflat : flat = true → w.stack = [])
      (hnext : ∀ handle ∈ next.handle?, w.issued handle) :
      Move flat w { w with stack := ⟨[], false, true, false, next⟩ :: w.stack }
  | startTask (w : World) (task : CleanupTask) (frame : Frame) (frames : List Frame)
      (tasks : List CleanupTask) (h : w.stack = frame :: frames)
      (htasks : frame.tasksToRun = task :: tasks) :
      Move flat w
        ({ w with stack := { frame with tasksToRun := tasks, executing := true } :: frames }.emit
          [.taskRun task frame.immediate frame.deviceLost])
  | endTask (w : World) (frame : Frame) (frames : List Frame) (h : w.stack = frame :: frames) :
      Move flat w { w with stack := { frame with executing := false } :: frames }
  | pop (w : World) (frame : Frame) (frames : List Frame) (h : w.stack = frame :: frames)
      (htasks : frame.tasksToRun = []) : Move flat w { w with stack := frames }

/-! ## Generations -/

/-- The generations are handed out in order, and the queue holds the entries that have not
retired. -/
structure Ordered (w : World) : Prop where
  sorted : (submissions w.log).Pairwise fun e e' => e.generationId < e'.generationId
  bounds : ∀ e ∈ submissions w.log, 0 < e.generationId ∧ e.generationId < w.nextGeneration
  queue : w.cleanupTasks =
    (submissions w.log).filter fun e => w.currentGeneration < e.generationId
  current_lt : w.currentGeneration < w.nextGeneration
  callbacks : ∀ g ∈ w.callbacks, ∃ e ∈ submissions w.log, e.generationId = g ∧ e.fence = none

variable {flat : Bool} {w w' : World}

lemma ordered_init : Ordered {} := by
  constructor <;> simp [submissions]

/-- The generations only depend on part of a world. -/
lemma Ordered.congr (h : w.Ordered) (hlog : submissions w'.log = submissions w.log)
    (hnext : w'.nextGeneration = w.nextGeneration)
    (hqueue : w'.cleanupTasks = w.cleanupTasks)
    (hcurrent : w'.currentGeneration = w.currentGeneration)
    (hcallbacks : ∀ g ∈ w'.callbacks, g ∈ w.callbacks) : w'.Ordered where
  sorted := hlog ▸ h.sorted
  bounds := by rw [hlog, hnext]; exact h.bounds
  queue := by rw [hlog, hqueue, hcurrent]; exact h.queue
  current_lt := by rw [hcurrent, hnext]; exact h.current_lt
  callbacks := fun g hg => hlog ▸ h.callbacks g (hcallbacks g hg)

lemma Ordered.mem_queue (h : w.Ordered) {e : TasksForFence} :
    e ∈ w.cleanupTasks ↔ e ∈ submissions w.log ∧ w.currentGeneration < e.generationId := by
  rw [h.queue, List.mem_filter, decide_eq_true_eq]

lemma Ordered.queue_sorted (h : w.Ordered) :
    w.cleanupTasks.Pairwise fun e e' => e.generationId < e'.generationId :=
  h.queue ▸ h.sorted.filter _

/-- An entry is known by its generation. -/
lemma Ordered.entry_unique (h : w.Ordered) {e e' : TasksForFence} (he : e ∈ submissions w.log)
    (he' : e' ∈ submissions w.log) (heq : e.generationId = e'.generationId) : e = e' := by
  have : Std.Symm fun a b : TasksForFence => a.generationId ≠ b.generationId :=
    ⟨fun _ _ hne => hne.symm⟩
  by_contra hne
  exact (h.sorted.imp fun hlt => Nat.ne_of_lt hlt).forall he he' hne heq

lemma Ordered.enqueueFence (h : w.Ordered) (fence : Option Fence) :
    (w.enqueueFence fence).Ordered := by
  have hsub : submissions (w.enqueueFence fence).log =
      submissions w.log ++ [⟨fence, w.nextGeneration, w.tasksPendingFence⟩] :=
    submissions_append _ _
  have hlt := h.current_lt
  constructor
  · rw [hsub, List.pairwise_append]
    refine ⟨h.sorted, List.pairwise_singleton _ _, fun e he e' he' => ?_⟩
    obtain rfl := List.mem_singleton.mp he'
    exact (h.bounds e he).2
  · intro e he
    rw [hsub, List.mem_append, List.mem_singleton] at he
    simp only [World.enqueueFence]
    rcases he with he | rfl
    · have := h.bounds e he
      omega
    · simp only
      omega
  · have hnew : [⟨fence, w.nextGeneration, w.tasksPendingFence⟩].filter
        (fun e : TasksForFence => w.currentGeneration < e.generationId) =
          [⟨fence, w.nextGeneration, w.tasksPendingFence⟩] := by
      simp [hlt]
    rw [hsub, List.filter_append]
    exact congrArg₂ (· ++ ·) h.queue hnew.symm
  · simp only [World.enqueueFence]
    omega
  · intro g hg
    obtain ⟨e, he, hentry⟩ := h.callbacks g hg
    exact ⟨e, hsub ▸ List.mem_append_left _ he, hentry⟩

/-- A sorted queue is cut where the generations exceed a bound. -/
lemma dropWhile_eq_filter {es : List TasksForFence} {retired : ℕ}
    (h : es.Pairwise fun e e' => e.generationId < e'.generationId) :
    es.dropWhile (fun e => e.generationId ≤ retired) =
      es.filter (fun e => retired < e.generationId) := by
  induction es with
  | nil => rfl
  | cons e es ih =>
      obtain ⟨hhead, htail⟩ := List.pairwise_cons.mp h
      by_cases he : e.generationId ≤ retired
      · rw [List.dropWhile_cons_of_pos (by simpa using he),
          List.filter_cons_of_neg (by simpa using he), ih htail]
      · have hall : ∀ e' ∈ e :: es, retired < e'.generationId := by
          intro e' he'
          rcases List.mem_cons.mp he' with rfl | he'
          · omega
          · have := hhead e' he'
            omega
        rw [List.dropWhile_cons_of_neg (by simpa using he),
          List.filter_eq_self.mpr (by simpa using hall)]

lemma Ordered.retire (h : w.Ordered) {retired : ℕ} {next : Continuation}
    (hlow : w.currentGeneration ≤ retired) (hhigh : retired < w.nextGeneration) :
    (w.retire retired next).Ordered := by
  have hsub : submissions (w.retire retired next).log = submissions w.log := by
    simp [World.retire]
  refine ⟨hsub ▸ h.sorted, hsub ▸ h.bounds, ?_, hhigh, hsub ▸ h.callbacks⟩
  rw [hsub]
  simp only [World.retire]
  rw [dropWhile_eq_filter h.queue_sorted, h.queue, List.filter_filter]
  refine List.filter_congr fun e _ => ?_
  by_cases he : retired < e.generationId
  · simp [he, Nat.lt_of_le_of_lt hlow he]
  · simp [he]

lemma submissions_retireAll (w : World) (deviceLost : Bool) (next : Continuation) :
    submissions (w.retireAll deviceLost next).log = submissions w.log := by
  simp only [World.retireAll, submissions_append]
  rw [← List.singleton_append, submissions_append, submissions_destroyFences]
  simp [submissions, Event.entry?]

lemma Ordered.retireAll (h : w.Ordered) (deviceLost : Bool) (next : Continuation) :
    (w.retireAll deviceLost next).Ordered := by
  have hsub := w.submissions_retireAll deviceLost next
  have hlt := h.current_lt
  refine ⟨hsub ▸ h.sorted, hsub ▸ h.bounds, ?_, ?_, hsub ▸ h.callbacks⟩
  · rw [hsub]
    symm
    refine List.filter_eq_nil_iff.mpr fun e he hlater => ?_
    have hlater : w.nextGeneration - 1 < e.generationId := of_decide_eq_true hlater
    have := h.bounds e he
    omega
  · simp only [World.retireAll]
    omega

lemma submissions_allowed {event : Event} (h : w.Allowed event) :
    submissions (w.emit [event]).log = submissions w.log := by
  cases event <;> simp_all [Allowed, emit, submissions, Event.entry?]

/-- Every move keeps the generations in order. -/
lemma Ordered.move (h : w.Ordered) (hmove : Move flat w w') : w'.Ordered := by
  cases hmove with
  | event event hallowed =>
      exact h.congr (submissions_allowed hallowed) rfl rfl rfl fun _ hg => hg
  | enqueueTask => exact h.congr rfl rfl rfl rfl fun _ hg => hg
  | createFence => exact h.congr rfl rfl rfl rfl fun _ hg => hg
  | submitNull => exact h.enqueueFence none
  | submitClient fence _ =>
      have h' : Ordered { w with clientFences := w.clientFences.erase fence } :=
        h.congr rfl rfl rfl rfl fun _ hg => hg
      exact h'.enqueueFence _
  | submitFresh =>
      have h' : Ordered { w with nextFence := w.nextFence + 1 } :=
        h.congr rfl rfl rfl rfl fun _ hg => hg
      exact h'.enqueueFence _
  | submitCallback =>
      have h' := h.enqueueFence none
      refine ⟨h'.sorted, h'.bounds, h'.queue, h'.current_lt, fun g hg => ?_⟩
      rcases List.mem_append.mp hg with hg | hg
      · exact h'.callbacks g hg
      · obtain rfl := List.mem_singleton.mp hg
        exact ⟨⟨none, w.nextGeneration, w.tasksPendingFence⟩,
          mem_submissions.mpr (List.mem_append_right _ List.mem_cons_self), rfl, rfl⟩
  | failFence =>
      refine h.congr ?_ rfl rfl rfl fun _ hg => hg
      simp [emit, submissions, Event.entry?]
  | retireAll deviceLost next => exact h.retireAll deviceLost next
  | retire retired next _ _ hlow hhigh => exact h.retire hlow hhigh
  | push => exact h.congr rfl rfl rfl rfl fun _ hg => hg
  | startTask =>
      refine h.congr ?_ rfl rfl rfl fun _ hg => hg
      simp [emit, submissions, Event.entry?]
  | endTask => exact h.congr rfl rfl rfl rfl fun _ hg => hg
  | pop => exact h.congr rfl rfl rfl rfl fun _ hg => hg

/-- No move lets a generation come back. -/
lemma Ordered.current_le (h : w.Ordered) (hmove : Move flat w w') :
    w.currentGeneration ≤ w'.currentGeneration := by
  have hlt := h.current_lt
  cases hmove with
  | retireAll => exact Nat.le_pred_of_lt hlt
  | retire _ _ _ _ hlow => exact hlow
  | _ => exact Nat.le_refl _

/-! ## What a move records -/

/-- What is known of the events that a move other than `Move.event` records. -/
def Added (w w' : World) : Event → Prop
  | .submitted _ => True
  | .destroyFence fence .process =>
      (∃ e ∈ w.cleanupTasks, e.fence = some fence ∧ e.generationId ≤ w'.currentGeneration) ∧
        .getFenceStatus fence .success ∈ w.log
  | .destroyFence fence .immediate =>
      ∃ e ∈ w.cleanupTasks, e.fence = some fence ∧ e.generationId ≤ w'.currentGeneration
  | .destroyFence fence .submitFailed =>
      fence = w.nextFence ∧ w'.nextFence = w.nextFence + 1 ∧ w'.clientFences = w.clientFences ∧
        submissions w'.log = submissions w.log
  | .queueWaitIdle _ => True
  | .taskRun task immediate _ =>
      ∃ frame ∈ w.stack, task ∈ frame.tasksToRun ∧ frame.immediate = immediate
  | _ => False

lemma Ordered.mem_queue_bounds (h : w.Ordered) {e : TasksForFence} (he : e ∈ w.cleanupTasks) :
    w.currentGeneration < e.generationId ∧ e.generationId < w.nextGeneration := by
  obtain ⟨hsub, hlt⟩ := h.mem_queue.mp he
  exact ⟨hlt, (h.bounds e hsub).2⟩

/-- A move submits nothing, or the pending tasks under the next generation. -/
lemma Move.submissions_cases (hmove : Move flat w w') :
    submissions w'.log = submissions w.log ∨
      ∃ fence, w'.log =
          w.log ++ [.submitted ⟨fence, w.nextGeneration, w.tasksPendingFence⟩] ∧
        w'.tasksPendingFence = [] ∧ w'.nextTask = w.nextTask ∧ w'.stack = w.stack := by
  cases hmove with
  | event event hallowed => exact .inl (submissions_allowed hallowed)
  | submitNull => exact .inr ⟨none, rfl, rfl, rfl, rfl⟩
  | submitClient fence _ => exact .inr ⟨some fence, rfl, rfl, rfl, rfl⟩
  | submitFresh => exact .inr ⟨some w.nextFence, rfl, rfl, rfl, rfl⟩
  | submitCallback => exact .inr ⟨none, rfl, rfl, rfl, rfl⟩
  | failFence => exact .inl (by simp [emit, submissions, Event.entry?])
  | retireAll deviceLost next => exact .inl (w.submissions_retireAll deviceLost next)
  | retire retired next => exact .inl (by simp [World.retire])
  | startTask => exact .inl (by simp [emit, submissions, Event.entry?])
  | _ => exact .inl rfl

/-- A move records one event that changes nothing else, or events that are `Added`. -/
lemma Move.log_cases (hmove : Move flat w w') (hord : w.Ordered) :
    (∃ event, w.Allowed event ∧ w' = w.emit [event]) ∨
      ∃ new, w'.log = w.log ++ new ∧ ∀ event ∈ new, w.Added w' event := by
  have hunchanged : w'.log = w.log → ∃ new, w'.log = w.log ++ new ∧
      ∀ event ∈ new, w.Added w' event := fun h => ⟨[], by rw [h, List.append_nil], by simp⟩
  have hsubmitted : ∀ entry, w'.log = w.log ++ [.submitted entry] → ∃ new,
      w'.log = w.log ++ new ∧ ∀ event ∈ new, w.Added w' event :=
    fun entry h => ⟨[.submitted entry], h, by simp [Added]⟩
  cases hmove with
  | event event h => exact .inl ⟨event, h, rfl⟩
  | submitNull => exact .inr (hsubmitted _ rfl)
  | submitClient => exact .inr (hsubmitted _ rfl)
  | submitFresh => exact .inr (hsubmitted _ rfl)
  | submitCallback => exact .inr (hsubmitted _ rfl)
  | failFence =>
      refine .inr ⟨[.destroyFence w.nextFence .submitFailed], rfl, fun event hevent => ?_⟩
      obtain rfl := List.mem_singleton.mp hevent
      refine ⟨rfl, rfl, rfl, ?_⟩
      simp [emit, submissions, Event.entry?]
  | retireAll deviceLost next =>
      refine .inr ⟨.queueWaitIdle deviceLost :: destroyFences .immediate w.cleanupTasks, rfl, ?_⟩
      intro event hevent
      rcases List.mem_cons.mp hevent with rfl | hevent
      · exact trivial
      · obtain ⟨fence, rfl, e, he, hfence⟩ := mem_destroyFences.mp hevent
        exact ⟨e, he, hfence, Nat.le_pred_of_lt (hord.mem_queue_bounds he).2⟩
  | retire retired next _ _ hlow hhigh hreported =>
      refine .inr ⟨_, rfl, fun event hevent => ?_⟩
      obtain ⟨fence, rfl, e, he, hfence⟩ := mem_destroyFences.mp hevent
      have hqueue : e ∈ w.cleanupTasks := (List.takeWhile_prefix _).subset he
      have hle : e.generationId ≤ retired := by simpa using List.mem_takeWhile_imp he
      exact ⟨⟨e, hqueue, hfence, hle⟩, hreported e hqueue hle fence hfence⟩
  | startTask task frame frames tasks hstack htasks =>
      refine .inr ⟨_, rfl, fun event hevent => ?_⟩
      obtain rfl := List.mem_singleton.mp hevent
      exact ⟨frame, hstack ▸ List.mem_cons_self, htasks ▸ List.mem_cons_self, rfl⟩
  | _ => exact .inr (hunchanged rfl)

end World

end TorOnion
