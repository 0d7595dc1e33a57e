import TorOnion.Library.Runs

/-!
# The Vulkan fence helper: `vv_helper.cpp`

`VulkanFenceHelper` retires cleanup tasks when the GPU work they wait for is done.  Tasks gather
in `tasks_pending_fence_`; enqueuing a fence, or creating an external callback, moves them under
a fresh generation into `cleanup_tasks_`; `ProcessCleanupTasks` finds out how far the generations
have retired, and `PerformImmediateCleanup` waits for the queue and retires everything.

A `World` is a helper with what surrounds it: the fences a client holds, the closures that have
not run, and the calls that are in the middle of running their `tasks_to_run`.  A task is client
code and may call the helper again, so these calls form a stack of frames, and a call is enabled
when no call is in progress or when a task is being executed.  What happens is recorded in the
log, oldest event first; the log is also where the facts of the outside world stand, such as
which fences have signalled.

What Vulkan answers is chosen by the label of a step.  `vkGetFenceStatus` fails where the label
says so and otherwise tells whether the fence has signalled; a fence that signals during a scan
is one that signals before or after it, since the scan asks each fence once.  A `CHECK` that
fails ends the run: no step.  The `DCHECK`s are left out.

The header is not part of the repository: `current_generation_` starts at 0, `next_generation_`
at 1, `ProcessCleanupTasks` takes 0 by default, and `UsingCallback()` means a null fence.
-/

namespace TorOnion

/-! ## Data -/

/-- A `VkFence` other than `VK_NULL_HANDLE`. -/
abbrev Fence := ℕ

/-- A cleanup task, numbered in the order of `EnqueueCleanupTaskForSubmittedWork`. -/
abbrev CleanupTask := ℕ

/-- `VkResult` as far as `vkGetFenceStatus` is concerned: `VK_SUCCESS`, `VK_NOT_READY`, or an
error. -/
inductive VkResult
  | success
  | notReady
  | error
  deriving DecidableEq

/-- The result of `vkQueueWaitIdle`: `VK_SUCCESS`, `VK_ERROR_DEVICE_LOST`, or another error. -/
inductive IdleResult
  | success
  | deviceLost
  | error
  deriving DecidableEq

/-- `FenceHandle`; `none` is `VK_NULL_HANDLE`. -/
structure FenceHandle where
  fence : Option Fence := none
  generationId : ℕ := 0
  deriving DecidableEq

/-- `TasksForFence`: an entry of `cleanup_tasks_`. -/
structure TasksForFence where
  fence : Option Fence
  generationId : ℕ
  tasks : List CleanupTask
  deriving DecidableEq

/-- The handle `EnqueueFence` returned for an entry. -/
def TasksForFence.handle (e : TasksForFence) : FenceHandle := ⟨e.fence, e.generationId⟩

/-- The three places that destroy a fence: the end of `ProcessCleanupTasks`,
`PerformImmediateCleanup`, and `GenerateCleanupFence` when `vkQueueSubmit` fails. -/
inductive DestroySite
  | process
  | immediate
  | submitFailed
  deriving DecidableEq

/-- What can be seen of a run. -/
inductive Event
  /-- A fence signals. -/
  | signal (fence : Fence)
  /-- An entry is appended to `cleanup_tasks_`. -/
  | submitted (entry : TasksForFence)
  /-- The closure of a generation is run. -/
  | callbackRun (generationId : ℕ)
  /-- `ProcessCleanupTasks` is called, with the generation and the status of every fence that is
  queued. -/
  | processCalled (retiredGenerationId : ℕ) (queued : List (ℕ × VkResult))
  | getFenceStatus (fence : Fence) (result : VkResult)
  | destroyFence (fence : Fence) (site : DestroySite)
  /-- `PerformImmediateCleanup` has waited for the queue. -/
  | queueWaitIdle (deviceLost : Bool)
  | taskRun (task : CleanupTask) (immediate : Bool) (deviceLost : Bool)
  | waitForFences (fence : Option Fence) (result : Bool)
  | hasPassed (handle : FenceHandle) (result : Bool)
  | waitReturned (handle : FenceHandle) (result : Bool)
  deriving DecidableEq

/-- What a call does when its tasks have run. -/
inductive Continuation
  /-- The call returns. -/
  | done
  /-- `HasPassed` compares the generations. -/
  | hasPassed (handle : FenceHandle)
  /-- `Wait` after its `HasPassed`. -/
  | wait (handle : FenceHandle)
  /-- `Wait` after its `ProcessCleanupTasks`. -/
  | waitDone (handle : FenceHandle) (result : Bool)
  deriving DecidableEq

/-- A call in the loop over its `tasks_to_run`: the tasks that are left, whether one is being
executed, and the kind of cleanup that runs them. -/
structure Frame where
  tasksToRun : List CleanupTask
  executing : Bool
  immediate : Bool
  deviceLost : Bool
  next : Continuation
  deriving DecidableEq

/-- The members of `VulkanFenceHelper`. -/
structure VulkanFenceHelper where
  tasksPendingFence : List CleanupTask := []
  cleanupTasks : List TasksForFence := []
  currentGeneration : ℕ := 0
  nextGeneration : ℕ := 1

/-- A helper in its surroundings. -/
structure World extends VulkanFenceHelper where
  /-- The fences that a client has created and not yet enqueued. -/
  clientFences : List Fence := []
  nextFence : Fence := 0
  nextTask : CleanupTask := 0
  /-- The generations of the closures that have not been run. -/
  callbacks : List ℕ := []
  log : List Event := []
  stack : List Frame := []

/-- What Vulkan answers during a call: the fences for which `vkGetFenceStatus` fails, and the
result of `vkQueueWaitIdle`. -/
structure VkAnswers where
  statusFails : Fence → Bool := fun _ => false
  idle : IdleResult := .success

/-! ## Reading a log -/

/-- The entry of a `submitted` event. -/
def Event.entry? : Event → Option TasksForFence
  | .submitted entry => some entry
  | _ => none

/-- The task of a `taskRun` event. -/
def Event.task? : Event → Option CleanupTask
  | .taskRun task _ _ => some task
  | _ => none

/-- All entries that were appended to `cleanup_tasks_`, in order. -/
def submissions (log : List Event) : List TasksForFence := log.filterMap Event.entry?

/-- All tasks that were run, in order. -/
def ranTasks (log : List Event) : List CleanupTask := log.filterMap Event.task?

/-! ## The functions of the source -/

namespace World

/-- Records events. -/
def emit (w : World) (events : List Event) : World := { w with log := w.log ++ events }

/-- `vkGetFenceStatus`. -/
def fenceStatus (w : World) (vk : VkAnswers) (fence : Fence) : VkResult :=
  if vk.statusFails fence then .error
  else if .signal fence ∈ w.log then .success
  else .notReady

/-- `EnqueueFence`. -/
def enqueueFence (fence : Option Fence) (w : World) : World :=
  let entry : TasksForFence := ⟨fence, w.nextGeneration, w.tasksPendingFence⟩
  { w with
    nextGeneration := w.nextGeneration + 1
    cleanupTasks := w.cleanupTasks ++ [entry]
    tasksPendingFence := []
    log := w.log ++ [.submitted entry] }

/-- `EnqueueCleanupTaskForSubmittedWork`. -/
def enqueueCleanupTask (w : World) : World :=
  { w with
    tasksPendingFence := w.tasksPendingFence ++ [w.nextTask]
    nextTask := w.nextTask + 1 }

/-- The fences of entries as they are destroyed; destroying `VK_NULL_HANDLE` does nothing. -/
def destroyFences (site : DestroySite) (entries : List TasksForFence) : List Event :=
  (entries.filterMap TasksForFence.fence).map fun fence => .destroyFence fence site

/-- `PerformImmediateCleanup`. -/
def performImmediateCleanup (vk : VkAnswers) (next : Continuation) (w : World) : Option World :=
  if w.cleanupTasks = [] ∧ w.tasksPendingFence = [] then
    some { w with stack := ⟨[], false, true, false, next⟩ :: w.stack }
  else if vk.idle = .error then none
  else
    let deviceLost := decide (vk.idle = .deviceLost)
    let tasksToRun := w.cleanupTasks.flatMap TasksForFence.tasks ++ w.tasksPendingFence
    some { w with
      currentGeneration := w.nextGeneration - 1
      cleanupTasks := []
      tasksPendingFence := []
      log := w.log ++ .queueWaitIdle deviceLost :: destroyFences .immediate w.cleanupTasks
      stack := ⟨tasksToRun, false, true, deviceLost, next⟩ :: w.stack }

end World

/-- The scan of `ProcessCleanupTasks`: the generation up to which entries retire, or `none` when
`vkGetFenceStatus` fails; and the calls of `vkGetFenceStatus` it makes. -/
def scanFences (status : Fence → VkResult) :
    List TasksForFence → ℕ → Option ℕ × List Event
  | [], retired => (some retired, [])
  | e :: es, retired =>
      match e.fence with
      | none => scanFences status es retired
      | some fence =>
          match status fence with
          | .notReady =>
              (some (min retired (e.generationId - 1)), [.getFenceStatus fence .notReady])
          | .success =>
              let rest := scanFences status es (max e.generationId retired)
              (rest.1, .getFenceStatus fence .success :: rest.2)
          | .error => (none, [.getFenceStatus fence .error])

/-- The generation and the status of every fence of a queue. -/
def queuedFences (status : Fence → VkResult) (entries : List TasksForFence) :
    List (ℕ × VkResult) :=
  entries.filterMap fun e => e.fence.map fun fence => (e.generationId, status fence)

namespace World

/-- The end of `ProcessCleanupTasks`: the entries up to a generation retire. -/
def retire (retired : ℕ) (next : Continuation) (w : World) : World :=
  let popped := w.cleanupTasks.takeWhile fun e => e.generationId ≤ retired
  { w with
    currentGeneration := retired
    cleanupTasks := w.cleanupTasks.dropWhile fun e => e.generationId ≤ retired
    log := w.log ++ destroyFences .process popped
    stack := ⟨popped.flatMap TasksForFence.tasks, false, false, false, next⟩ :: w.stack }

/-- `ProcessCleanupTasks`. -/
def processCleanupTasks (vk : VkAnswers) (retiredGenerationId : ℕ) (next : Continuation)
    (w : World) : Option World :=
  let status := w.fenceStatus vk
  let retired := if retiredGenerationId = 0 then w.currentGeneration else retiredGenerationId
  let scan := scanFences status w.cleanupTasks retired
  let called := .processCalled retiredGenerationId (queuedFences status w.cleanupTasks)
  match scan.1 with
  | none => (w.emit (called :: scan.2)).performImmediateCleanup vk next
  | some retired => some ((w.emit (called :: scan.2)).retire retired next)

/-- `GenerateCleanupFence`; the flags tell whether `vkCreateFence` and `vkQueueSubmit` succeed.
The fence is submitted before it is enqueued. -/
def generateCleanupFence (created submitted : Bool) (vk : VkAnswers) (w : World) : Option World :=
  if w.tasksPendingFence = [] then some w
  else if created = false then w.performImmediateCleanup vk .done
  else
    let fence := w.nextFence
    let w := { w with nextFence := w.nextFence + 1 }
    if submitted = false then
      (w.emit [.destroyFence fence .submitFailed]).performImmediateCleanup vk .done
    else some (w.enqueueFence (some fence))

/-- `CreateExternalCallback`. -/
def createExternalCallback (w : World) : World :=
  if w.tasksPendingFence = [] then w
  else
    let entry : TasksForFence := ⟨none, w.nextGeneration, w.tasksPendingFence⟩
    { w with
      nextGeneration := w.nextGeneration + 1
      cleanupTasks := w.cleanupTasks ++ [entry]
      tasksPendingFence := []
      callbacks := w.callbacks ++ [w.nextGeneration]
      log := w.log ++ [.submitted entry] }

/-- The body of the closure of a generation, which runs once. -/
def runCallback (vk : VkAnswers) (generationId : ℕ) (w : World) : Option World :=
  let w := { w with callbacks := w.callbacks.erase generationId }.emit [.callbackRun generationId]
  if generationId > w.currentGeneration then w.processCleanupTasks vk generationId .done
  else some w

/-! ## Steps -/

/-- The calls a client makes. -/
inductive Call
  | enqueueCleanupTask
  /-- `GetFence`, and whether `vkCreateFence` succeeds. -/
  | getFence (created : Bool)
  | enqueueFence (fence : Option Fence)
  | generateCleanupFence (created submitted : Bool) (vk : VkAnswers)
  | createExternalCallback
  | runCallback (generationId : ℕ) (vk : VkAnswers)
  | hasPassed (handle : FenceHandle) (vk : VkAnswers)
  | wait (handle : FenceHandle) (vk : VkAnswers)
  | processCleanupTasks (vk : VkAnswers)
  | performImmediateCleanup (vk : VkAnswers)

/-- Whether a handle is one that a client can hold. -/
def issued (w : World) (handle : FenceHandle) : Prop :=
  handle = {} ∨ handle ∈ (submissions w.log).map TasksForFence.handle

instance (w : World) (handle : FenceHandle) : Decidable (w.issued handle) := by
  unfold issued
  infer_instance

/-- A call.  A client enqueues a fence it holds, once, or the null handle; it runs a closure it
holds; and it asks for handles it was given. -/
def call (w : World) : Call → Option World
  | .enqueueCleanupTask => some w.enqueueCleanupTask
  | .getFence created =>
      some (if created then
        { w with clientFences := w.clientFences ++ [w.nextFence], nextFence := w.nextFence + 1 }
        else w)
  | .enqueueFence none => some (w.enqueueFence none)
  | .enqueueFence (some fence) =>
      if fence ∈ w.clientFences then
        some ({ w with clientFences := w.clientFences.erase fence }.enqueueFence (some fence))
      else none
  | .generateCleanupFence created submitted vk => w.generateCleanupFence created submitted vk
  | .createExternalCallback => some w.createExternalCallback
  | .runCallback generationId vk =>
      if generationId ∈ w.callbacks then w.runCallback vk generationId else none
  | .hasPassed handle vk =>
      if w.issued handle then w.processCleanupTasks vk 0 (.hasPassed handle) else none
  | .wait handle vk =>
      if w.issued handle then w.processCleanupTasks vk 0 (.wait handle) else none
  | .processCleanupTasks vk => w.processCleanupTasks vk 0 .done
  | .performImmediateCleanup vk => w.performImmediateCleanup vk .done

/-- Whether a call is enabled: at top level, or from a task that is being executed. -/
def canCall (w : World) : Prop := w.stack = [] ∨ ∃ frame ∈ w.stack.head?, frame.executing = true

instance (w : World) : Decidable w.canCall := by
  unfold canCall
  infer_instance

/-- `handle` has passed. -/
def passed (w : World) (handle : FenceHandle) : Bool :=
  decide (w.currentGeneration ≥ handle.generationId)

/-- What a call does when its tasks have run.  `waited` is the result of `vkWaitForFences`. -/
def resume (vk : VkAnswers) (waited : Bool) (w : World) : Continuation → Option World
  | .done => some w
  | .hasPassed handle => some (w.emit [.hasPassed handle (w.passed handle)])
  | .wait handle =>
      let w' := w.emit [.hasPassed handle (w.passed handle)]
      if w.passed handle then some (w'.emit [.waitReturned handle true])
      else
        (w'.emit [.waitForFences handle.fence waited]).processCleanupTasks vk 0
          (.waitDone handle waited)
  | .waitDone handle result => some (w.emit [.waitReturned handle result])

/-- The steps of a run. -/
inductive Label
  | call (c : Call)
  /-- A fence signals. -/
  | signal (fence : Fence)
  /-- The call on top takes its next task and executes it. -/
  | startTask
  | endTask
  /-- The call on top has run its tasks. -/
  | finish (vk : VkAnswers) (waited : Bool)

/-- One step. -/
def step (w : World) : Label → Option World
  | .call c => if w.canCall then w.call c else none
  | .signal fence => some (w.emit [.signal fence])
  | .startTask =>
      match w.stack with
      | ⟨task :: tasks, false, immediate, deviceLost, next⟩ :: frames =>
          some ({ w with stack := ⟨tasks, true, immediate, deviceLost, next⟩ :: frames }.emit
            [.taskRun task immediate deviceLost])
      | _ => none
  | .endTask =>
      match w.stack with
      | ⟨tasks, true, immediate, deviceLost, next⟩ :: frames =>
          some { w with stack := ⟨tasks, false, immediate, deviceLost, next⟩ :: frames }
      | _ => none
  | .finish vk waited =>
      match w.stack with
      | ⟨[], false, _, _, next⟩ :: frames => { w with stack := frames }.resume vk waited next
      | _ => none

end World

end TorOnion
