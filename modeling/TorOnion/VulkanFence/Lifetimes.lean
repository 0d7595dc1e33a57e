import TorOnion.VulkanFence.Fences
import TorOnion.VulkanFence.Retirement

/-!
# Every fence is destroyed once, and what has passed is cleaned up

A fence that was created is held by the client, belongs to an entry of `cleanup_tasks_`, or has
been destroyed; it is in one of these places, once.  So no fence leaks and none is destroyed
twice, and after `Destroy` only those are left that the client never enqueued.

`HasPassed` compares generations after it has run the tasks that retired, so that in a flat run an
answer of true means that the tasks of the handle, and of all that were submitted before it, have
been run.  A task that calls the helper can see an answer of true while tasks of the same
generation are still in the hands of the call that runs it (`passed_before_run`).
-/

namespace TorOnion

open Relation (ReflTransGen)

/-! ## Reading a log -/

/-- The fence of a `destroyFence` event. -/
def Event.destroyed? : Event → Option Fence
  | .destroyFence fence _ => some fence
  | _ => none

/-- The answer of a `hasPassed` event. -/
def Event.answer? : Event → Option (FenceHandle × Bool)
  | .hasPassed handle result => some (handle, result)
  | _ => none

/-- All fences that were destroyed, in order. -/
def destroyedFences (log : List Event) : List Fence := log.filterMap Event.destroyed?

/-- All answers of `HasPassed`, in order. -/
def answers (log : List Event) : List (FenceHandle × Bool) := log.filterMap Event.answer?

section Logs

variable {log new : List Event} {site : DestroySite} {entries : List TasksForFence}

@[simp] lemma destroyedFences_append :
    destroyedFences (log ++ new) = destroyedFences log ++ destroyedFences new :=
  List.filterMap_append

@[simp] lemma answers_append : answers (log ++ new) = answers log ++ answers new :=
  List.filterMap_append

lemma destroyedFences_destroyFences :
    destroyedFences (World.destroyFences site entries) = entries.filterMap TasksForFence.fence := by
  simp [destroyedFences, World.destroyFences, List.filterMap_map, Event.destroyed?,
    Function.comp_def]

@[simp] lemma answers_destroyFences : answers (World.destroyFences site entries) = [] := by
  simp [answers, World.destroyFences, List.filterMap_map, Event.answer?, Function.comp_def]

lemma answers_eq_nil : answers log = [] ↔ ∀ handle result, .hasPassed handle result ∉ log := by
  constructor
  · intro h handle result hmem
    have hnone := List.filterMap_eq_nil_iff.mp h _ hmem
    cases hnone
  · intro h
    refine List.filterMap_eq_nil_iff.mpr fun event hmem => ?_
    cases event with
    | hasPassed handle result => exact absurd hmem (h handle result)
    | _ => rfl

end Logs

namespace World

variable {flat : Bool} {w w' : World} {vk : VkAnswers} {next : Continuation}

/-! ## Fences -/

/-- The fences in the entries of `cleanup_tasks_`. -/
def entryFences (w : World) : List Fence := w.cleanupTasks.filterMap TasksForFence.fence

/-- Where the fences are: with the client, in the queue, or destroyed. -/
def fences (w : World) : List Fence :=
  w.clientFences ++ (w.entryFences ++ destroyedFences w.log)

lemma fences_enqueueFence (fence : Option Fence) :
    (w.enqueueFence fence).fences.Perm (w.fences ++ fence.toList) := by
  have hlog : destroyedFences (w.enqueueFence fence).log = destroyedFences w.log :=
    destroyedFences_append.trans (List.append_nil _)
  have hentries : (w.enqueueFence fence).entryFences = w.entryFences ++ fence.toList := by
    cases fence <;> simp [entryFences, enqueueFence]
  rw [fences, fences, hlog, hentries, List.append_assoc, List.append_assoc, List.append_assoc]
  exact List.Perm.append_left _ (List.Perm.append_left _ List.perm_append_comm)

lemma destroyed?_of_allowed {event : Event} (h : w.Allowed event) : event.destroyed? = none := by
  cases event <;> first | rfl | exact h.elim

/-- A move carries fences from one place to the next, and brings at most the next one. -/
lemma Move.fences (h : Move flat w w') :
    ∃ new, List.range w'.nextFence = List.range w.nextFence ++ new ∧
      w'.fences.Perm (w.fences ++ new) := by
  have hkept : w'.nextFence = w.nextFence → w'.fences.Perm w.fences →
      ∃ new, List.range w'.nextFence = List.range w.nextFence ++ new ∧
        w'.fences.Perm (w.fences ++ new) :=
    fun hnext hperm => ⟨[], by rw [hnext, List.append_nil], by rwa [List.append_nil]⟩
  have hnull : (w.enqueueFence none).fences.Perm w.fences := by
    have hperm : (w.enqueueFence none).fences.Perm (w.fences ++ []) := fences_enqueueFence none
    rwa [List.append_nil] at hperm
  cases h with
  | event event hallowed =>
      refine hkept rfl (.of_eq ?_)
      simp [World.fences, entryFences, emit, destroyedFences, destroyed?_of_allowed hallowed]
  | createFence =>
      refine ⟨[w.nextFence], List.range_succ, ?_⟩
      simp only [World.fences, List.append_assoc]
      refine List.Perm.append_left _ ?_
      rw [← List.append_assoc w.entryFences]
      exact List.perm_append_comm
  | submitNull => exact hkept rfl hnull
  | submitCallback => exact hkept rfl hnull
  | submitClient fence hmem =>
      refine hkept rfl ((fences_enqueueFence (some fence)).trans ?_)
      -- the fence moves from the client's to those of the queue
      rw [Option.toList_some]
      refine List.perm_append_comm.trans ?_
      exact (List.perm_cons_erase hmem).symm.append_right _
  | submitFresh =>
      exact ⟨[w.nextFence], List.range_succ, fences_enqueueFence (some w.nextFence)⟩
  | failFence =>
      refine ⟨[w.nextFence], List.range_succ, .of_eq ?_⟩
      simp [World.fences, entryFences, emit, destroyedFences, Event.destroyed?]
  | retireAll deviceLost next =>
      refine hkept rfl ?_
      have hlog : destroyedFences (w.retireAll deviceLost next).log =
          destroyedFences w.log ++ w.entryFences :=
        destroyedFences_append.trans (congrArg _ destroyedFences_destroyFences)
      rw [World.fences, hlog]
      have hswap : (destroyedFences w.log ++ w.entryFences).Perm
          (w.entryFences ++ destroyedFences w.log) := List.perm_append_comm
      exact hswap.append_left w.clientFences
  | retire retired next =>
      refine hkept rfl ?_
      have hentries : w.entryFences =
          (w.cleanupTasks.takeWhile fun e => e.generationId ≤ retired).filterMap
              TasksForFence.fence ++
            (w.retire retired next).entryFences := by
        rw [entryFences, entryFences, World.retire, ← List.filterMap_append,
          List.takeWhile_append_dropWhile]
      have hlog : destroyedFences (w.retire retired next).log = destroyedFences w.log ++
          (w.cleanupTasks.takeWhile fun e => e.generationId ≤ retired).filterMap
            TasksForFence.fence :=
        destroyedFences_append.trans (congrArg _ destroyedFences_destroyFences)
      rw [World.fences, World.fences, hlog, hentries]
      refine List.Perm.append_left _ ?_
      rw [← List.append_assoc]
      refine List.perm_append_comm.trans ?_
      rw [List.append_assoc]
  | startTask task frame frames tasks hstack htasks =>
      refine hkept rfl (.of_eq ?_)
      simp [World.fences, entryFences, emit, destroyedFences, Event.destroyed?]
  | _ => exact hkept rfl .rfl

/-- Every fence that was created is in one place, once. -/
lemma fences_perm_of_reachable (h : Reachable flat w) :
    w.fences.Perm (List.range w.nextFence) := by
  refine (invariant_of_reachable (I := fun w => w.fences.Perm (List.range w.nextFence))
    (.of_eq rfl) (fun w w' _ h hmove => ?_) (fun w g h => ?_) h).2
  · obtain ⟨new, hrange, hperm⟩ := hmove.fences
    rw [hrange]
    exact hperm.trans (h.append_right new)
  · have hlog : destroyedFences (w.startCallback g).log = destroyedFences w.log :=
      destroyedFences_append.trans (List.append_nil _)
    refine List.Perm.trans (.of_eq ?_) h
    rw [fences, hlog]
    rfl

/-! ## Answers -/

lemma performImmediateCleanup_answers (h : w.performImmediateCleanup vk next = some w') :
    ∃ new, w'.log = w.log ++ new ∧ answers new = [] := by
  unfold performImmediateCleanup at h
  split_ifs at h
  · obtain rfl := Option.some.inj h
    exact ⟨[], (List.append_nil _).symm, rfl⟩
  · obtain rfl := Option.some.inj h
    refine ⟨_, rfl, ?_⟩
    rw [← List.singleton_append, answers_append, answers_destroyFences]
    rfl

lemma processCleanupTasks_answers {generation : ℕ}
    (h : w.processCleanupTasks vk generation next = some w') :
    ∃ new, w'.log = w.log ++ new ∧ answers new = [] := by
  set scanned := Event.processCalled generation
    (queuedFences (w.fenceStatus vk) w.cleanupTasks) ::
      (scanFences (w.fenceStatus vk) w.cleanupTasks (w.scanStart generation)).2 with hscanned
  have hlog : (w.afterScan vk generation).log = w.log ++ scanned := rfl
  have hnone : answers scanned = [] := by
    refine answers_eq_nil.mpr fun handle result hmem => ?_
    rcases List.mem_cons.mp hmem with heq | hmem
    · cases heq
    · obtain ⟨fence, heq⟩ := scanFences_events hmem
      cases heq
  rcases processCleanupTasks_cases h with ⟨-, h⟩ | ⟨retired, -, rfl⟩
  · obtain ⟨new, hnew, hanswers⟩ := performImmediateCleanup_answers h
    refine ⟨scanned ++ new, by rw [hnew, hlog, List.append_assoc], ?_⟩
    rw [answers_append, hnone, hanswers, List.append_nil]
  · set popped := (w.afterScan vk generation).cleanupTasks.takeWhile fun e =>
      e.generationId ≤ retired with hpopped
    refine ⟨scanned ++ destroyFences .process popped, ?_, ?_⟩
    · rw [← List.append_assoc, ← hlog]
      rfl
    · rw [answers_append, hnone, answers_destroyFences, List.append_nil]

lemma call_answers {c : Call} (h : w.call c = some w') :
    ∃ new, w'.log = w.log ++ new ∧ answers new = [] := by
  have hnothing : ∃ new, w.log = w.log ++ new ∧ answers new = [] :=
    ⟨[], (List.append_nil _).symm, rfl⟩
  cases c with
  | enqueueCleanupTask =>
      obtain rfl := Option.some.inj h
      exact hnothing
  | getFence created =>
      obtain rfl := Option.some.inj h
      cases created <;> exact hnothing
  | enqueueFence fence =>
      cases fence with
      | none =>
          obtain rfl := Option.some.inj h
          exact ⟨_, rfl, rfl⟩
      | some fence =>
          simp only [call] at h
          split_ifs at h
          obtain rfl := Option.some.inj h
          exact ⟨_, rfl, rfl⟩
  | generateCleanupFence created submitted vk =>
      simp only [call, generateCleanupFence] at h
      split_ifs at h
      · obtain rfl := Option.some.inj h
        exact hnothing
      · exact performImmediateCleanup_answers h
      · obtain ⟨new, hlog, hanswers⟩ := performImmediateCleanup_answers h
        refine ⟨.destroyFence w.nextFence .submitFailed :: new, ?_, hanswers⟩
        rw [hlog, emit, List.append_assoc, List.singleton_append]
      · obtain rfl := Option.some.inj h
        exact ⟨_, rfl, rfl⟩
  | createExternalCallback =>
      obtain rfl := Option.some.inj h
      unfold createExternalCallback
      split_ifs
      · exact hnothing
      · exact ⟨_, rfl, rfl⟩
  | runCallback generation vk =>
      simp only [call, runCallback] at h
      split_ifs at h
      · obtain ⟨new, hlog, hanswers⟩ := processCleanupTasks_answers h
        refine ⟨.callbackRun generation :: new, ?_, hanswers⟩
        rw [hlog, emit, List.append_assoc, List.singleton_append]
      · obtain rfl := Option.some.inj h
        exact ⟨_, rfl, rfl⟩
  | hasPassed handle vk =>
      simp only [call] at h
      split_ifs at h
      exact processCleanupTasks_answers h
  | wait handle vk =>
      simp only [call] at h
      split_ifs at h
      exact processCleanupTasks_answers h
  | processCleanupTasks vk => exact processCleanupTasks_answers h
  | performImmediateCleanup vk => exact performImmediateCleanup_answers h

/-- A step answers nothing, or it is the end of a call whose tasks have run, and answers by
comparing the generations before it does anything else. -/
lemma step_answers {label : Label} (h : w.step label = some w') :
    (∃ new, w'.log = w.log ++ new ∧ answers new = []) ∨
      ∃ frame frames handle rest, w.stack = frame :: frames ∧ frame.tasksToRun = [] ∧
        w'.log = w.log ++ [.hasPassed handle (w.passed handle)] ++ rest ∧ answers rest = [] := by
  have hnothing : ∃ new, w.log = w.log ++ new ∧ answers new = [] :=
    ⟨[], (List.append_nil _).symm, rfl⟩
  cases label with
  | call c =>
      simp only [step] at h
      split_ifs at h
      exact .inl (call_answers h)
  | signal fence =>
      obtain rfl := Option.some.inj h
      exact .inl ⟨_, rfl, rfl⟩
  | startTask =>
      simp only [step] at h
      split at h
      next =>
        obtain rfl := Option.some.inj h
        exact .inl ⟨_, rfl, rfl⟩
      next => cases h
  | endTask =>
      simp only [step] at h
      split at h
      next =>
        obtain rfl := Option.some.inj h
        exact .inl hnothing
      next => cases h
  | finish vk waited =>
      simp only [step] at h
      split at h
      next immediate deviceLost next frames hstack =>
        cases next with
        | done =>
            obtain rfl := Option.some.inj h
            exact .inl hnothing
        | waitDone handle result =>
            obtain rfl := Option.some.inj h
            exact .inl ⟨_, rfl, rfl⟩
        | hasPassed handle =>
            obtain rfl := Option.some.inj h
            exact .inr ⟨_, frames, handle, [], hstack, rfl, (List.append_nil _).symm, rfl⟩
        | wait handle =>
            simp only [resume] at h
            split_ifs at h with hpassed
            · obtain rfl := Option.some.inj h
              exact .inr ⟨_, frames, handle, [.waitReturned handle true], hstack, rfl, rfl, rfl⟩
            · obtain ⟨new, hlog, hanswers⟩ := processCleanupTasks_answers h
              refine .inr ⟨_, frames, handle, .waitForFences handle.fence waited :: new, hstack,
                rfl, ?_, hanswers⟩
              rw [hlog, emit, emit, List.append_assoc _ [_] new, List.singleton_append]
              rfl
      next => cases h

/-! ## Tasks of handles that have passed -/

/-- The tasks that were submitted under a generation, or before it, have been run. -/
def TasksRan (log : List Event) (generation : ℕ) : Prop :=
  ∀ e ∈ submissions log, e.generationId ≤ generation → ∀ task ∈ e.tasks, task ∈ ranTasks log

/-- An answer of true finds the tasks run. -/
def AnswersRan (w : World) : Prop :=
  Always (fun pre event => ∀ handle, event = .hasPassed handle true →
    TasksRan pre handle.generationId) w.log

/-- Events without an answer keep the property. -/
lemma AnswersRan.append {log new : List Event} (hanswers : answers new = [])
    (h : Always (fun pre event => ∀ handle, event = .hasPassed handle true →
      TasksRan pre handle.generationId) log) :
    Always (fun pre event => ∀ handle, event = .hasPassed handle true →
      TasksRan pre handle.generationId) (log ++ new) := by
  refine h.append fun event hmem pre _ handle heq => ?_
  exact absurd (heq ▸ hmem) (answers_eq_nil.mp hanswers handle true)

lemma AnswersRan.step (h : w.AnswersRan) (hwf : w.WellFormed true) (hacc : w.Accounted true)
    (hsub : w.TasksSubmitted) (hstep : Step true w w') : w'.AnswersRan := by
  obtain ⟨label, hstep, -⟩ := hstep
  rcases step_answers hstep with ⟨new, hlog, hanswers⟩ |
    ⟨frame, frames, handle, rest, hstack, htasks, hlog, hanswers⟩
  · rw [AnswersRan, hlog]
    exact AnswersRan.append hanswers h
  · rw [AnswersRan, hlog]
    refine AnswersRan.append hanswers (h.concat fun handle' heq => ?_)
    obtain ⟨rfl, hpassed⟩ := Event.hasPassed.inj heq
    intro e he hle task htask
    have hcurrent : e.generationId ≤ w.currentGeneration := hle.trans (of_decide_eq_true hpassed)
    -- the call that answers is the only one, and its tasks have run
    have hnone : w.inFlight = [] := by
      have hlen := hwf.shallow rfl
      rw [hstack, List.length_cons] at hlen
      have hframes : frames = [] := List.eq_nil_of_length_eq_zero (by omega)
      rw [inFlight, hstack, hframes]
      simp [htasks]
    have hran := run_or_inFlight hwf.ordered ⟨hacc.perm, fun h => absurd h Bool.false_ne_true⟩
      hsub he hcurrent htask
    rw [hnone] at hran
    exact hran.resolve_right (List.not_mem_nil)

lemma answersRan_of_reachable (h : Reachable true w) : w.AnswersRan := by
  induction h with
  | refl => exact always_nil
  | tail hreach hstep ih =>
      have hreach : Reachable true _ := hreach
      exact ih.step (wellFormed_of_reachable hreach) (accounted_of_reachable hreach)
        (tasksSubmitted_of_reachable hreach) hstep

/-! ## The results -/

/-- **No fence leaks and none is destroyed twice.**  In every world that is reached, whatever
Vulkan answers and whatever the tasks call, a fence that was created is with the client, in the
queue, or destroyed: in one of them, and once.  When `Destroy` has been called with something to
clean up, the fences that are left are the client's, and every task is run or in flight. -/
theorem fences_accounted (h : Reachable flat w) :
    (w.clientFences ++ w.entryFences ++ destroyedFences w.log).Perm (List.range w.nextFence) ∧
      ∀ vk w', Step flat w w' → w.step (.call (.performImmediateCleanup vk)) = some w' →
        (w'.clientFences ++ destroyedFences w'.log).Perm (List.range w'.nextFence) ∧
          (w'.inFlight ++ ranTasks w'.log).Perm (List.range w'.nextTask) := by
  have hplaces : ∀ {v : World}, Reachable flat v →
      (v.clientFences ++ v.entryFences ++ destroyedFences v.log).Perm (List.range v.nextFence) := by
    intro v hv
    rw [List.append_assoc]
    exact fences_perm_of_reachable hv
  refine ⟨hplaces h, fun vk w' hrun hstep => ?_⟩
  have hreach : Reachable flat w' := h.tail hrun
  have hempty : w'.cleanupTasks = [] ∧ w'.tasksPendingFence = [] := by
    simp only [step, call, performImmediateCleanup] at hstep
    split_ifs at hstep with _ hnone
    · obtain rfl := Option.some.inj hstep
      exact hnone
    · obtain rfl := Option.some.inj hstep
      exact ⟨rfl, rfl⟩
  constructor
  · have hperm := hplaces hreach
    rwa [entryFences, hempty.1, List.filterMap_nil, List.append_nil] at hperm
  · have hperm := (accounted_of_reachable hreach).perm
    rw [places, queued, hempty.1, hempty.2, List.flatMap_nil, List.append_nil,
      List.append_nil] at hperm
    exact List.perm_append_comm.trans hperm

/-- A fence of the client, one that signals, and one that is destroyed with its entry. -/
def threeFences : List Label :=
  [.call (.getFence true), .call .enqueueCleanupTask, .call (.generateCleanupFence true true {}),
    .signal 1, .call (.processCleanupTasks {}), .startTask, .endTask, .finish {} true,
    .call .enqueueCleanupTask, .call (.getFence true), .call (.enqueueFence (some 2))]

/-- `Destroy` leaves the fence that was not enqueued. -/
theorem fences_accounted_threeFences : ∃ w w' : World, run {} threeFences = some w ∧
    w.step (.call (.performImmediateCleanup {})) = some w' ∧ w'.clientFences = [0] ∧
      (w'.clientFences ++ destroyedFences w'.log).Perm (List.range 3) := by
  refine ⟨_, _, rfl, rfl, rfl, ?_⟩
  exact ((fences_accounted (run_steps threeFences rfl)).2 {} _
    ⟨.call (.performImmediateCleanup {}), rfl, nofun⟩ rfl).1

/-- **What has passed is cleaned up.**  In a flat run, when `HasPassed` answers true for a handle,
every task that was submitted under the handle's generation or an earlier one has been run. -/
theorem tasks_ran_when_passed (h : Reachable true w) {pre post : List Event}
    {handle : FenceHandle} (hlog : w.log = pre ++ .hasPassed handle true :: post) :
    ∀ e ∈ submissions pre, e.generationId ≤ handle.generationId →
      ∀ task ∈ e.tasks, task ∈ ranTasks pre :=
  answersRan_of_reachable h pre _ post hlog handle rfl

/-- A step of a flat run, as a function. -/
def flatStep (w : World) : Label → Option World
  | .call c => if w.stack = [] then w.step (.call c) else none
  | label => w.step label

lemma flat_steps (labels : List Label) (h : labels.foldlM flatStep w = some w') :
    ReflTransGen (Step true) w w' := by
  refine ReflTransGen.mono (fun u v ⟨label, hstep⟩ => ⟨label, ?_⟩) _ _ (run_of_foldlM labels h)
  cases label with
  | call c =>
      obtain ⟨hstack, hstep⟩ := Option.ite_none_right_eq_some.mp hstep
      exact ⟨hstep, fun _ _ _ => hstack⟩
  | _ => exact ⟨hstep, fun _ => nofun⟩

/-- Two tasks under one fence, which signals. -/
def twoTasks : List Label :=
  [.call .enqueueCleanupTask, .call .enqueueCleanupTask, .call (.getFence true),
    .call (.enqueueFence (some 0)), .signal 0]

/-- The call that asks has run both. -/
def askAfterwards : List Label :=
  twoTasks ++ [.call (.hasPassed ⟨some 0, 1⟩ {}), .startTask, .endTask, .startTask, .endTask,
    .finish {} true]

theorem tasks_ran_when_passed_twoTasks : ∃ w : World,
    askAfterwards.foldlM flatStep {} = some w ∧
      ∃ pre, w.log = pre ++ [.hasPassed ⟨some 0, 1⟩ true] ∧ 1 ∈ ranTasks pre := by
  refine ⟨_, rfl, [.submitted ⟨some 0, 1, [0, 1]⟩, .signal 0, .processCalled 0 [(1, .success)],
    .getFenceStatus 0 .success, .destroyFence 0 .process, .taskRun 0 false false,
    .taskRun 1 false false], rfl, ?_⟩
  have hreach : Reachable true _ := flat_steps askAfterwards rfl
  exact tasks_ran_when_passed hreach rfl ⟨some 0, 1, [0, 1]⟩ (by decide) le_rfl 1 (by decide)

/-- A task that asks for its own handle is told that it has passed before the next task of the
same generation has run. -/
theorem passed_before_run : ¬ ∀ w, Reachable false w → ∀ pre handle post,
    w.log = pre ++ .hasPassed handle true :: post → TasksRan pre handle.generationId := by
  intro h
  have hrun := run_steps (w := {}) (twoTasks ++ [.call (.processCleanupTasks {}), .startTask,
    .call (.hasPassed ⟨some 0, 1⟩ {}), .finish {} true]) rfl
  have hran := h _ hrun [.submitted ⟨some 0, 1, [0, 1]⟩, .signal 0,
    .processCalled 0 [(1, .success)], .getFenceStatus 0 .success, .destroyFence 0 .process,
    .taskRun 0 false false, .processCalled 0 []] ⟨some 0, 1⟩ [] rfl
  exact absurd (hran ⟨some 0, 1, [0, 1]⟩ (by decide) le_rfl 1 (by decide)) (by decide)

end World

end TorOnion
