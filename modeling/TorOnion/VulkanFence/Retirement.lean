import TorOnion.VulkanFence.Accounting

/-!
# When a callback retires its generation

The closure of `CreateExternalCallback` is run once, and what it says is not kept: it calls
`ProcessCleanupTasks` with its generation, and when a fence that is queued below that generation
has not signalled yet, the scan pulls the result below the fence.  Entries of callbacks are
passed over by later scans, so the generation only retires when a fence behind it signals, or
everything is cleaned up.  A fence that signals out of order is asked again; a callback that
arrives out of order is forgotten (`retirement_forgotten`).

In runs where no closure arrives while a fence below it is the first that holds the scan up, every
closure retires its generation at once, and `retirementKept_of_run` follows.
-/

namespace TorOnion

open Relation (ReflTransGen)

/-! ## What holds the scan up -/

/-- The first fence that is queued below a generation and does not report `VK_SUCCESS`. -/
def firstUnsignalled (generation : ℕ) (queued : List (ℕ × VkResult)) : Option (ℕ × VkResult) :=
  queued.find? fun entry => decide (entry.1 < generation ∧ entry.2 ≠ .success)

section Scan

variable {status : Fence → VkResult} {es : List TasksForFence} {generation retired result : ℕ}

/-- A scan that starts at or above a generation stays there unless the first unsignalled fence
below the generation is not ready. -/
lemma le_scanFences (hscan : (scanFences status es retired).1 = some result)
    (hstart : generation ≤ retired)
    (hfences : ∀ e ∈ es, e.fence ≠ none → e.generationId ≠ generation)
    (hready : (firstUnsignalled generation (queuedFences status es)).map Prod.snd ≠
      some .notReady) : generation ≤ result := by
  induction es generalizing retired with
  | nil =>
      obtain rfl : retired = result := by simpa [scanFences] using hscan
      exact hstart
  | cons e es ih =>
      have hfences' : ∀ e ∈ es, e.fence ≠ none → e.generationId ≠ generation :=
        fun e he => hfences e (List.mem_cons_of_mem _ he)
      rw [scanFences] at hscan
      cases hfence : e.fence with
      | none =>
          rw [hfence] at hscan
          rw [queuedFences, List.filterMap_cons_none (by rw [hfence]; rfl)] at hready
          exact ih hscan hstart hfences' hready
      | some fence =>
          have hne : e.generationId ≠ generation :=
            hfences e List.mem_cons_self (by rw [hfence]; exact Option.some_ne_none fence)
          rw [queuedFences, List.filterMap_cons_some (by rw [hfence]; rfl), firstUnsignalled,
            List.find?_cons] at hready
          cases hstatus : status fence with
          | success =>
              simp only [hfence, hstatus] at hscan
              simp only [hstatus, ne_eq, not_true_eq_false, and_false, decide_false] at hready
              exact ih hscan (hstart.trans (Nat.le_max_right _ _)) hfences' hready
          | notReady =>
              simp only [hfence, hstatus, Option.some.injEq] at hscan
              by_cases hbelow : e.generationId < generation
              · simp [hstatus, hbelow] at hready
              · omega
          | error =>
              simp only [hfence, hstatus] at hscan
              cases hscan

/-- If that fence is not ready, the scan ends below the generation. -/
lemma scanFences_lt (hsorted : es.Pairwise fun e e' => e.generationId < e'.generationId)
    (hblocked : (firstUnsignalled generation (queuedFences status es)).map Prod.snd =
      some .notReady) :
    ∃ result, (scanFences status es retired).1 = some result ∧ result < generation := by
  induction es generalizing retired with
  | nil => cases hblocked
  | cons e es ih =>
      obtain ⟨hhead, htail⟩ := List.pairwise_cons.mp hsorted
      rw [scanFences]
      cases hfence : e.fence with
      | none =>
          rw [queuedFences, List.filterMap_cons_none (by rw [hfence]; rfl)] at hblocked
          exact ih htail hblocked
      | some fence =>
          rw [queuedFences, List.filterMap_cons_some (by rw [hfence]; rfl), firstUnsignalled,
            List.find?_cons] at hblocked
          -- from an entry above the generation on, all are
          have hnone : ¬ e.generationId < generation →
              (queuedFences status es).find?
                (fun entry => decide (entry.1 < generation ∧ entry.2 ≠ .success)) = none := by
            intro habove
            refine List.find?_eq_none.mpr fun entry hentry => ?_
            obtain ⟨e', he', hmap⟩ := List.mem_filterMap.mp hentry
            obtain ⟨fence', -, rfl⟩ := Option.map_eq_some_iff.mp hmap
            have := hhead e' he'
            simp only [decide_eq_true_eq, not_and]
            omega
          by_cases hbelow : e.generationId < generation
          · cases hstatus : status fence with
            | success =>
                simp only [hstatus, ne_eq, not_true_eq_false, and_false, decide_false] at hblocked
                simp only [hstatus]
                exact ih htail hblocked
            | notReady =>
                simp only [hstatus]
                exact ⟨min retired (e.generationId - 1), rfl, by omega⟩
            | error => simp [hstatus, hbelow] at hblocked
          · simp only [hbelow, false_and, decide_false] at hblocked
            rw [← queuedFences, hnone hbelow] at hblocked
            cases hblocked

/-- Only a queue with an entry can fail the scan. -/
lemma ne_nil_of_scanFences_none (hscan : (scanFences status es retired).1 = none) : es ≠ [] := by
  rintro rfl
  cases hscan

end Scan

namespace World

variable {w w' : World} {vk : VkAnswers} {generation : ℕ}

/-- A closure arrives when the first fence below it that has not signalled does not hold the scan
up: there is no such fence, or its status is an error, which retires everything. -/
def Unblocked (w : World) : Label → Prop
  | .call (.runCallback generation vk) =>
      w.currentGeneration < generation →
        (firstUnsignalled generation (queuedFences (w.fenceStatus vk) w.cleanupTasks)).map
          Prod.snd ≠ some .notReady
  | _ => True

instance (w : World) : DecidablePred w.Unblocked := fun label => by
  unfold Unblocked
  split <;> infer_instance

/-- **No retirement is lost.**  When the closure of a generation has been run, and
`ProcessCleanupTasks` was then called with its default argument while every fence queued below the
generation reported `VK_SUCCESS`, the tasks of the generation have been run. -/
def RetirementKept (w : World) : Prop :=
  ∀ pre generation mid queued post,
    w.log = pre ++ .callbackRun generation :: (mid ++ .processCalled 0 queued :: post) →
    (∀ entry ∈ queued, entry.1 < generation → entry.2 = .success) →
    ∀ e ∈ submissions w.log, e.generationId = generation → ∀ task ∈ e.tasks,
      task ∈ ranTasks w.log

/-! ## Closures that retire their generation -/

/-- The closures that have been run have retired their generation. -/
def CallbacksRetired (w : World) : Prop :=
  ∀ generation, .callbackRun generation ∈ w.log → generation ≤ w.currentGeneration

/-- No move runs a closure. -/
lemma callbackRun_of_moves (hwf : w.WellFormed false) (hmoves : ReflTransGen (Move false) w w')
    (h : .callbackRun generation ∈ w'.log) : .callbackRun generation ∈ w.log := by
  induction hmoves with
  | refl => exact h
  | tail hpre hmove ih =>
      refine ih ?_
      rcases hmove.log_cases (hwf.moves hpre).ordered with ⟨event, hallowed, rfl⟩ |
        ⟨new, hlog, hadded⟩
      · rcases List.mem_append.mp h with hmem | hmem
        · exact hmem
        · obtain rfl := List.mem_singleton.mp hmem
          exact hallowed.elim
      · rw [hlog] at h
        exact (List.mem_append.mp h).resolve_right fun hmem => hadded _ hmem

lemma fenceStatus_startCallback :
    (w.startCallback generation).fenceStatus vk = w.fenceStatus vk := by
  funext fence
  simp [fenceStatus, startCallback, emit]

/-- When everything is cleaned up, everything retires. -/
lemma current_of_performImmediateCleanup {next : Continuation} (hqueue : w.cleanupTasks ≠ [])
    (h : w.performImmediateCleanup vk next = some w') :
    w'.currentGeneration = w.nextGeneration - 1 := by
  unfold performImmediateCleanup at h
  split_ifs at h with hempty
  · exact absurd hempty.1 hqueue
  · obtain rfl := Option.some.inj h
    rfl

/-- A closure retires its generation exactly when it is not blocked. -/
lemma le_current_of_runCallback_iff (hord : w.Ordered) (hheld : generation ∈ w.callbacks)
    (h : w.runCallback vk generation = some w') :
    generation ≤ w'.currentGeneration ↔ w.Unblocked (.call (.runCallback generation vk)) := by
  obtain ⟨e, he, rfl, hnone⟩ := hord.callbacks generation hheld
  have hbounds := hord.bounds e he
  change (if e.generationId > w.currentGeneration
    then (w.startCallback e.generationId).processCleanupTasks vk e.generationId .done
    else some (w.startCallback e.generationId)) = some w' at h
  split_ifs at h with hlater
  · have hstart : (w.startCallback e.generationId).scanStart e.generationId = e.generationId :=
      if_neg hbounds.1.ne'
    have hscanned := processCleanupTasks_cases h
    rw [hstart, fenceStatus_startCallback] at hscanned
    rcases hscanned with ⟨hscan, h⟩ | ⟨retired, hscan, rfl⟩
    · -- the scan failed, and everything retires
      have hqueue : ((w.startCallback e.generationId).afterScan vk
          e.generationId).cleanupTasks ≠ [] := ne_nil_of_scanFences_none hscan
      rw [current_of_performImmediateCleanup hqueue h]
      refine iff_of_true (Nat.le_pred_of_lt hbounds.2) fun _ hblocked => ?_
      obtain ⟨result, hresult, -⟩ := scanFences_lt hord.queue_sorted hblocked
      exact nomatch hscan.symm.trans hresult
    · -- the entry of the closure is the only one of its generation, and has no fence
      have hfences : ∀ e' ∈ w.cleanupTasks, e'.fence ≠ none → e'.generationId ≠ e.generationId := by
        intro e' he' hfence heq
        have hsub := (hord.mem_queue.mp he').1
        have : e' = e := hord.entry_unique hsub he heq
        exact hfence (this ▸ hnone)
      refine ⟨fun hle _ hblocked => ?_,
        fun hunblocked => le_scanFences hscan le_rfl hfences (hunblocked hlater)⟩
      obtain ⟨result, hresult, hlt⟩ := scanFences_lt hord.queue_sorted hblocked
      rw [← Option.some.inj (hscan.symm.trans hresult)] at hlt
      exact Nat.not_le_of_lt hlt hle
  · obtain rfl := Option.some.inj h
    exact iff_of_true (Nat.le_of_not_lt hlater) fun hgreater => absurd hgreater hlater

lemma CallbacksRetired.step (h : w.CallbacksRetired) (hwf : w.WellFormed false) {label : Label}
    (hunblocked : w.Unblocked label) (hstep : w.step label = some w') : w'.CallbacksRetired := by
  have hcurrent := current_le_of_step hwf ⟨label, hstep, nofun⟩
  intro g hran
  rcases step_moves hwf hstep nofun with hmoves | ⟨g', hheld, ⟨vk, rfl⟩, hmoves⟩
  · exact (h g (callbackRun_of_moves hwf hmoves hran)).trans hcurrent
  · have hran := callbackRun_of_moves (hwf.startCallback g') hmoves hran
    rcases List.mem_append.mp hran with hran | hran
    · exact (h g hran).trans hcurrent
    · obtain rfl : g = g' := by simpa using hran
      simp only [World.step, call] at hstep
      split_ifs at hstep
      exact (le_current_of_runCallback_iff hwf.ordered hheld hstep).mpr hunblocked

/-- The tasks of a generation that has retired are in the hands of a call, or were run. -/
lemma run_or_inFlight (hord : w.Ordered) (hacc : w.Accounted false) (hsub : w.TasksSubmitted)
    {e : TasksForFence} (he : e ∈ submissions w.log)
    (hle : e.generationId ≤ w.currentGeneration) {task : CleanupTask} (htask : task ∈ e.tasks) :
    task ∈ ranTasks w.log ∨ task ∈ w.inFlight := by
  have hmem : task ∈ (submissions w.log).flatMap TasksForFence.tasks :=
    List.mem_flatMap.mpr ⟨e, he, htask⟩
  have hplaces : task ∈ w.places :=
    hacc.perm.symm.subset (hsub.subset (List.mem_append_left _ hmem))
  rcases List.mem_append.mp hplaces with hran | hrest
  · exact .inl hran
  rcases List.mem_append.mp hrest with hflying | hrest
  · exact .inr hflying
  rcases List.mem_append.mp hrest with hqueued | hpending
  · -- the entry would still be queued
    obtain ⟨e', he', htask'⟩ := List.mem_flatMap.mp hqueued
    obtain ⟨hsub', hlt⟩ := hord.mem_queue.mp he'
    rw [hsub.entry_unique hsub' he htask' htask] at hlt
    exact absurd hle (Nat.not_le_of_lt hlt)
  · exact absurd hpending (hsub.nodup List.nodup_range |> List.disjoint_of_nodup_append <| hmem)

/-! ## The result -/

/-- **No retirement is lost in runs where no closure is blocked.** -/
theorem retirementKept_of_run
    (hrun : ReflTransGen (fun w w' => ∃ label, w.Unblocked label ∧ w.step label = some w') {} w)
    (hstack : w.stack = []) : w.RetirementKept := by
  have hreach : Reachable false w :=
    ReflTransGen.mono (fun _ _ ⟨label, _, hstep⟩ => ⟨label, hstep, nofun⟩) _ _ hrun
  have hretired : w.WellFormed false ∧ w.CallbacksRetired := by
    refine invariant_of_run (I := fun w => w.WellFormed false ∧ w.CallbacksRetired) ?_ hrun
      ⟨wellFormed_init, fun _ h => nomatch h⟩
    rintro w w' ⟨hwf, h⟩ ⟨label, hunblocked, hstep⟩
    exact ⟨hwf.step ⟨label, hstep, nofun⟩, h.step hwf hunblocked hstep⟩
  intro pre generation mid queued post hlog _ e he hgeneration task htask
  have hle : e.generationId ≤ w.currentGeneration :=
    hgeneration ▸ hretired.2 generation (by simp [hlog])
  have := run_or_inFlight hretired.1.ordered (accounted_of_reachable hreach)
    (tasksSubmitted_of_reachable hreach) he hle htask
  simpa [inFlight, hstack] using this

/-- A run whose steps are not blocked. -/
lemma unblocked_steps (labels : List Label)
    (h : labels.foldlM (fun w label => if w.Unblocked label then w.step label else none) w =
      some w') :
    ReflTransGen (fun w w' => ∃ label, w.Unblocked label ∧ w.step label = some w') w w' := by
  refine ReflTransGen.mono ?_ _ _ (run_of_foldlM labels h)
  rintro w w' ⟨label, hstep⟩
  split_ifs at hstep with hunblocked
  exact ⟨label, hunblocked, hstep⟩

/-- A fence at generation 1 and a closure at generation 2, each with a task. -/
def fenceThenCallback : List Label :=
  [.call (.getFence true), .call .enqueueCleanupTask, .call (.enqueueFence (some 0)),
    .call .enqueueCleanupTask, .call .createExternalCallback]

/-- The fence signals before the closure is run. -/
def inOrderLabels : List Label :=
  fenceThenCallback ++ [.signal 0, .call (.runCallback 2 {}), .startTask, .endTask, .startTask,
    .endTask, .finish {} true, .call (.processCleanupTasks {}), .finish {} true]

/-- Both tasks are run. -/
theorem retirementKept_inOrder : ∃ w : World, run {} inOrderLabels = some w ∧
    ranTasks w.log = [0, 1] ∧ w.RetirementKept :=
  ⟨_, rfl, rfl, retirementKept_of_run (unblocked_steps inOrderLabels rfl) rfl⟩

/-- The fence signals after the closure was run; then `ProcessCleanupTasks` is called. -/
def outOfOrderLabels : List Label :=
  fenceThenCallback ++ [.call (.runCallback 2 {}), .finish {} true, .signal 0,
    .call (.processCleanupTasks {}), .startTask, .endTask, .finish {} true]

/-- A closure that is run before the fence below it has signalled is forgotten: its task is not
run when the fence has signalled. -/
theorem retirement_forgotten :
    ¬ ∀ w, Reachable false w → w.stack = [] → w.RetirementKept := by
  intro h
  have hrun := run_steps (w := {}) outOfOrderLabels rfl
  have hkept := h _ hrun rfl
    [.submitted ⟨some 0, 1, [0]⟩, .submitted ⟨none, 2, [1]⟩] 2
    [.processCalled 2 [(1, .notReady)], .getFenceStatus 0 .notReady, .signal 0]
    [(1, .success)] [.getFenceStatus 0 .success, .destroyFence 0 .process, .taskRun 0 false false]
    rfl (by decide) ⟨none, 2, [1]⟩ (by decide) rfl 1 (by decide)
  exact absurd hkept (by decide)

end World

end TorOnion
