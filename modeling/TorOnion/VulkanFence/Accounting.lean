import TorOnion.VulkanFence.Steps

/-!
# No task is lost or run twice

Where the cleanup tasks of a helper are: pending, queued in `cleanup_tasks_`, in flight in a call
that is running its `tasks_to_run`, or run.  A move only carries tasks from one place to the
next, so together the places hold every task that was ever enqueued, once.  When no task calls
the helper the places are even in the order of enqueuing, read from the tasks that were run to
the pending ones.

With the order of the generations this gives `tasks_accounted`, for every run, whatever Vulkan
answers and whenever the closures are run.
-/

namespace TorOnion

open Relation (ReflTransGen)

namespace World

variable {flat : Bool} {w w' : World}

/-! ## Places -/

/-- The tasks in the entries of `cleanup_tasks_`. -/
def queued (w : World) : List CleanupTask := w.cleanupTasks.flatMap TasksForFence.tasks

/-- The tasks that calls have taken out and not yet run. -/
def inFlight (w : World) : List CleanupTask := w.stack.flatMap Frame.tasksToRun

/-- All places, from the tasks that were run to the pending ones. -/
def places (w : World) : List CleanupTask :=
  ranTasks w.log ++ (w.inFlight ++ (w.queued ++ w.tasksPendingFence))

lemma task?_of_allowed {event : Event} (h : w.Allowed event) : event.task? = none := by
  cases event <;> first | rfl | exact h.elim

lemma places_enqueueFence (fence : Option Fence) : (w.enqueueFence fence).places = w.places := by
  simp [places, enqueueFence, queued, inFlight, ranTasks, Event.task?]

/-- Tasks that are taken out of the queue go in front of those in flight. -/
lemma perm_take (ran flying taken rest : List CleanupTask) :
    (ran ++ (taken ++ flying ++ rest)).Perm (ran ++ (flying ++ (taken ++ rest))) := by
  refine List.Perm.append_left ran ?_
  rw [← List.append_assoc flying]
  exact List.perm_append_comm.append_right rest

/-- A move keeps what the places hold, and what is enqueued comes last; a flat move also keeps
the order. -/
lemma Move.places (h : Move flat w w') :
    ∃ new, List.range w'.nextTask = List.range w.nextTask ++ new ∧
      w'.places.Perm (w.places ++ new) ∧ (flat = true → w'.places = w.places ++ new) := by
  have hkept : w'.nextTask = w.nextTask → w'.places.Perm w.places →
      (flat = true → w'.places = w.places) →
      ∃ new, List.range w'.nextTask = List.range w.nextTask ++ new ∧
        w'.places.Perm (w.places ++ new) ∧ (flat = true → w'.places = w.places ++ new) :=
    fun hnext hperm heq => ⟨[], by rw [hnext, List.append_nil], by rwa [List.append_nil],
      fun hf => by rw [heq hf, List.append_nil]⟩
  cases h with
  | event event hallowed =>
      have heq : (w.emit [event]).places = w.places := by
        simp [World.places, emit, ranTasks, task?_of_allowed hallowed, queued, inFlight]
      exact hkept rfl (.of_eq heq) fun _ => heq
  | enqueueTask =>
      have heq : w.enqueueCleanupTask.places = w.places ++ [w.nextTask] := by
        simp [World.places, enqueueCleanupTask, queued, inFlight]
      exact ⟨[w.nextTask], List.range_succ, .of_eq heq, fun _ => heq⟩
  | submitNull => exact hkept rfl (.of_eq (places_enqueueFence _)) fun _ => places_enqueueFence _
  | submitClient => exact hkept rfl (.of_eq (places_enqueueFence _)) fun _ => places_enqueueFence _
  | submitFresh => exact hkept rfl (.of_eq (places_enqueueFence _)) fun _ => places_enqueueFence _
  | submitCallback =>
      exact hkept rfl (.of_eq (places_enqueueFence _)) fun _ => places_enqueueFence _
  | failFence =>
      have heq : (({ w with nextFence := w.nextFence + 1 } : World).emit
          [.destroyFence w.nextFence .submitFailed]).places = w.places := by
        simp [World.places, emit, ranTasks, Event.task?, queued, inFlight]
      exact hkept rfl (.of_eq heq) fun _ => heq
  | retireAll deviceLost next hflat =>
      have hran : ranTasks (.queueWaitIdle deviceLost :: destroyFences .immediate w.cleanupTasks) =
          [] := ranTasks_destroyFences _ _
      have hplaces : (w.retireAll deviceLost next).places =
          ranTasks w.log ++ ((w.queued ++ w.tasksPendingFence) ++ w.inFlight ++ []) := by
        simp [World.places, World.retireAll, queued, inFlight, hran]
      refine hkept rfl ?_ fun hf => ?_
      · rw [hplaces]
        exact (perm_take _ _ _ _).trans (by rw [List.append_nil]; exact .rfl)
      · rw [hplaces]
        simp [World.places, inFlight, hflat hf]
  | retire retired next hflat =>
      have hqueued : w.queued =
          (w.cleanupTasks.takeWhile fun e => e.generationId ≤ retired).flatMap
              TasksForFence.tasks ++
            (w.cleanupTasks.dropWhile fun e => e.generationId ≤ retired).flatMap
              TasksForFence.tasks := by
        rw [← List.flatMap_append, List.takeWhile_append_dropWhile]
        rfl
      have hplaces : (w.retire retired next).places = ranTasks w.log ++
          ((w.cleanupTasks.takeWhile fun e => e.generationId ≤ retired).flatMap
              TasksForFence.tasks ++ w.inFlight ++
            ((w.cleanupTasks.dropWhile fun e => e.generationId ≤ retired).flatMap
              TasksForFence.tasks ++ w.tasksPendingFence)) := by
        simp [World.places, World.retire, queued, inFlight]
      refine hkept rfl ?_ fun hf => ?_
      · rw [hplaces, World.places, hqueued, List.append_assoc (_ : List CleanupTask) _
          w.tasksPendingFence]
        exact perm_take _ _ _ _
      · rw [hplaces, World.places, hqueued]
        simp [inFlight, hflat hf]
  | startTask task frame frames tasks hstack htasks =>
      have heq : (({ w with stack :=
          { frame with tasksToRun := tasks, executing := true } :: frames } : World).emit
          [.taskRun task frame.immediate frame.deviceLost]).places = w.places := by
        simp [World.places, emit, ranTasks, Event.task?, queued, inFlight, hstack, htasks]
      exact hkept rfl (.of_eq heq) fun _ => heq
  | endTask frame frames hstack =>
      have heq : ({ w with stack := { frame with executing := false } :: frames } : World).places =
          w.places := by
        simp [World.places, queued, inFlight, hstack]
      exact hkept rfl (.of_eq heq) fun _ => heq
  | pop frame frames hstack htasks =>
      have heq : ({ w with stack := frames } : World).places = w.places := by
        simp [World.places, queued, inFlight, hstack, htasks]
      exact hkept rfl (.of_eq heq) fun _ => heq
  | _ => exact hkept rfl .rfl fun _ => rfl

/-- The places hold every task once, and in order in a flat run. -/
structure Accounted (flat : Bool) (w : World) : Prop where
  perm : w.places.Perm (List.range w.nextTask)
  inOrder : flat = true → w.places = List.range w.nextTask

lemma Accounted.move (h : w.Accounted flat) (hmove : Move flat w w') : w'.Accounted flat := by
  obtain ⟨new, hrange, hperm, heq⟩ := hmove.places
  refine ⟨?_, fun hf => ?_⟩
  · rw [hrange]
    exact hperm.trans (h.perm.append_right new)
  · rw [heq hf, h.inOrder hf, hrange]

lemma Accounted.startCallback (h : w.Accounted flat) (g : ℕ) :
    (w.startCallback g).Accounted flat := by
  have heq : (w.startCallback g).places = w.places := by
    simp [places, World.startCallback, emit, ranTasks, Event.task?, queued, inFlight]
  exact ⟨heq ▸ h.perm, fun hf => heq ▸ h.inOrder hf⟩

lemma accounted_of_reachable (h : Reachable flat w) : w.Accounted flat := by
  refine (invariant_of_reachable ?_ (fun _ _ _ h hmove => h.move hmove)
    (fun _ g h => h.startCallback g) h).2
  exact ⟨.of_eq rfl, fun _ => rfl⟩

/-! ## Submissions -/

/-- Every task is submitted at most once, and in the order of enqueuing. -/
def TasksSubmitted (w : World) : Prop :=
  ((submissions w.log).flatMap TasksForFence.tasks ++ w.tasksPendingFence).Sublist
    (List.range w.nextTask)

/-- A move that submits nothing keeps the pending tasks, gets one, or takes them all out. -/
lemma Move.pending (hmove : Move flat w w') (hsub : submissions w'.log = submissions w.log) :
    ∃ new, List.range w'.nextTask = List.range w.nextTask ++ new ∧
      w'.tasksPendingFence.Sublist (w.tasksPendingFence ++ new) := by
  have hsubmits : ∀ v : World, ∀ fence, v.log = w.log →
      submissions (v.enqueueFence fence).log ≠ submissions w.log := by
    intro v fence hlog
    simp [World.enqueueFence, hlog, submissions, Event.entry?]
  cases hmove with
  | enqueueTask => exact ⟨[w.nextTask], List.range_succ, .refl _⟩
  | retireAll => exact ⟨[], (List.append_nil _).symm, List.nil_sublist _⟩
  | submitNull => exact absurd hsub (hsubmits w none rfl)
  | submitClient => exact absurd hsub (hsubmits _ _ rfl)
  | submitFresh => exact absurd hsub (hsubmits _ _ rfl)
  | submitCallback => exact absurd hsub (hsubmits w none rfl)
  | _ => exact ⟨[], (List.append_nil _).symm, List.sublist_append_left _ []⟩

lemma TasksSubmitted.move (h : w.TasksSubmitted) (hmove : Move flat w w') :
    w'.TasksSubmitted := by
  rcases hmove.submissions_cases with hsub | ⟨fence, hlog, hpending, hnext, -⟩
  · obtain ⟨new, hrange, hpending⟩ := hmove.pending hsub
    rw [TasksSubmitted, hsub, hrange]
    refine (List.Sublist.append_left hpending _).trans ?_
    rw [← List.append_assoc]
    exact List.Sublist.append_right h new
  · have hsub : submissions w'.log =
        submissions w.log ++ [⟨fence, w.nextGeneration, w.tasksPendingFence⟩] := by
      rw [hlog, submissions_append]
      rfl
    rw [TasksSubmitted, hsub, hpending, hnext, List.append_nil, List.flatMap_append]
    simpa [TasksSubmitted] using h

lemma tasksSubmitted_of_reachable (h : Reachable flat w) : w.TasksSubmitted := by
  refine (invariant_of_reachable (List.Sublist.refl _) (fun _ _ _ h hmove => h.move hmove)
    (fun w g h => ?_) h).2
  have hsub : submissions (w.startCallback g).log = submissions w.log :=
    (submissions_append _ _).trans (List.append_nil _)
  rw [TasksSubmitted, hsub]
  exact h

/-- A task is submitted in one entry only. -/
lemma TasksSubmitted.entry_unique (h : w.TasksSubmitted) {e e' : TasksForFence}
    {t : CleanupTask} (he : e ∈ submissions w.log) (he' : e' ∈ submissions w.log)
    (ht : t ∈ e.tasks) (ht' : t ∈ e'.tasks) : e = e' := by
  have hnodup : ((submissions w.log).flatMap TasksForFence.tasks).Nodup :=
    ((List.sublist_append_left _ _).trans h).nodup List.nodup_range
  have hdisjoint := (List.nodup_flatMap.mp hnodup).2
  by_contra hne
  have : Std.Symm (Function.onFun List.Disjoint TasksForFence.tasks) :=
    ⟨fun _ _ hd => List.Disjoint.symm hd⟩
  exact hdisjoint.forall he he' hne ht ht'

/-! ## `HasPassed` -/

/-- A handle that has passed stays passed. -/
structure PassedStays (w : World) : Prop where
  passed : ∀ handle, .hasPassed handle true ∈ w.log → handle.generationId ≤ w.currentGeneration
  always : Always (fun pre event => ∀ handle, event = .hasPassed handle false →
    .hasPassed handle true ∉ pre) w.log

lemma PassedStays.move (h : w.PassedStays) (hord : w.Ordered) (hmove : Move flat w w') :
    w'.PassedStays := by
  have hcurrent := hord.current_le hmove
  rcases hmove.log_cases hord with ⟨event, hallowed, rfl⟩ | ⟨new, hlog, hadded⟩
  · constructor
    · intro handle hmem
      rcases List.mem_append.mp hmem with hmem | hmem
      · exact h.passed handle hmem
      · obtain rfl := List.mem_singleton.mp hmem
        exact of_decide_eq_true hallowed.2.symm
    · refine h.always.concat fun handle hevent hmem => ?_
      rw [hevent] at hallowed
      exact absurd (h.passed handle hmem) (of_decide_eq_false hallowed.2.symm)
  · have hother : ∀ event ∈ new, ∀ handle result, event ≠ .hasPassed handle result := by
      rintro _ hmem handle result rfl
      exact hadded _ hmem
    constructor
    · intro handle hmem
      rw [hlog] at hmem
      rcases List.mem_append.mp hmem with hmem | hmem
      · exact (h.passed handle hmem).trans hcurrent
      · exact absurd rfl (hother _ hmem handle true)
    · rw [hlog]
      exact h.always.append fun event hmem _ _ handle hevent =>
        absurd hevent (hother event hmem handle false)

lemma passedStays_of_reachable (h : Reachable flat w) : w.PassedStays := by
  refine (invariant_of_reachable ?_ (fun _ _ hwf h hmove => h.move hwf.ordered hmove)
    (fun w g h => ?_) h).2
  · exact ⟨by simp, always_nil⟩
  · refine ⟨fun handle hmem => h.passed handle ?_, h.always.append ?_⟩
    · simpa [World.startCallback, emit] using hmem
    · simp

/-- No step lets a generation come back. -/
lemma current_le_of_step (hwf : w.WellFormed flat) (hstep : Step flat w w') :
    w.currentGeneration ≤ w'.currentGeneration := by
  have hchain : ∀ v : World, v.WellFormed flat → ReflTransGen (Move flat) v w' →
      v.currentGeneration ≤ w'.currentGeneration := fun _ hv hmoves =>
    le_of_run (I := WellFormed flat) (f := fun w => w.currentGeneration)
      (fun _ _ h hm => h.move hm) (fun _ _ h hm => h.ordered.current_le hm) hmoves hv
  obtain ⟨label, hstep, hflat⟩ := hstep
  rcases step_moves hwf hstep hflat with hmoves | ⟨g, -, -, hmoves⟩
  · exact hchain w hwf hmoves
  · exact hchain (w.startCallback g) (hwf.startCallback g) hmoves

lemma WellFormed.step (hwf : w.WellFormed flat) (hstep : Step flat w w') :
    w'.WellFormed flat := by
  obtain ⟨label, hstep, hflat⟩ := hstep
  rcases step_moves hwf hstep hflat with hmoves | ⟨g, -, -, hmoves⟩
  · exact hwf.moves hmoves
  · exact (hwf.startCallback g).moves hmoves

/-! ## The result -/

/-- **No task is lost, repeated or reordered.**  In every world that is reached, whatever Vulkan
answers and whenever closures are run: the tasks that were enqueued are the pending ones, those
in the queue, those in flight and those that were run, each once, with none in flight when no
call is in progress; in a flat run these places are in the order of enqueuing; the generations
in the queue increase strictly between `current_generation_` and `next_generation_`;
`current_generation_` never decreases from there on; and `HasPassed` never answers false for a
handle for which it answered true before. -/
theorem tasks_accounted (h : Reachable flat w) :
    (w.tasksPendingFence ++ w.queued ++ w.inFlight ++ ranTasks w.log).Perm
        (List.range w.nextTask) ∧
      (w.stack = [] → (w.tasksPendingFence ++ w.queued ++ ranTasks w.log).Perm
        (List.range w.nextTask)) ∧
      (flat = true → ranTasks w.log ++ w.inFlight ++ w.queued ++ w.tasksPendingFence =
        List.range w.nextTask) ∧
      (w.cleanupTasks.Pairwise fun e e' => e.generationId < e'.generationId) ∧
      (∀ e ∈ w.cleanupTasks,
        w.currentGeneration < e.generationId ∧ e.generationId < w.nextGeneration) ∧
      (∀ w', ReflTransGen (Step flat) w w' → w.currentGeneration ≤ w'.currentGeneration) ∧
      ∀ pre handle post, w.log = pre ++ .hasPassed handle false :: post →
        .hasPassed handle true ∉ pre := by
  have hwf := wellFormed_of_reachable h
  have hacc := accounted_of_reachable h
  have hperm : (w.tasksPendingFence ++ w.queued ++ w.inFlight ++ ranTasks w.log).Perm
      (List.range w.nextTask) := by
    refine List.Perm.trans ?_ hacc.perm
    refine List.perm_append_comm.trans (List.Perm.append_left _ ?_)
    exact List.perm_append_comm.trans (List.Perm.append_left _ List.perm_append_comm)
  refine ⟨hperm, fun hstack => ?_, fun hf => ?_, hwf.ordered.queue_sorted,
    fun e he => hwf.ordered.mem_queue_bounds he, fun w' hrun => ?_,
    fun pre handle post hlog => (passedStays_of_reachable h).always pre _ post hlog handle rfl⟩
  · simpa [inFlight, hstack] using hperm
  · rw [← hacc.inOrder hf]
    simp [places]
  · exact le_of_run (I := WellFormed flat) (f := fun w => w.currentGeneration)
      (fun _ _ hwf hstep => hwf.step hstep) (fun _ _ hwf hstep => current_le_of_step hwf hstep)
      hrun hwf

/-- Two tasks; the first is handed to a closure, which is run. -/
def callbackLabels : List Label :=
  [.call .enqueueCleanupTask, .call .createExternalCallback, .call .enqueueCleanupTask,
    .call (.runCallback 1 {}), .startTask, .endTask, .finish {} true]

/-- A task runs when the closure of its generation does. -/
theorem tasks_accounted_callback : ∃ w : World, run {} callbackLabels = some w ∧
    (w.tasksPendingFence ++ w.queued ++ ranTasks w.log).Perm (List.range w.nextTask) ∧
    w.tasksPendingFence = [1] ∧ ranTasks w.log = [0] :=
  ⟨_, rfl, (tasks_accounted (run_steps callbackLabels rfl)).2.1 rfl, rfl, rfl⟩

end World

end TorOnion
