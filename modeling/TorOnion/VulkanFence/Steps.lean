import TorOnion.VulkanFence.Moves

/-!
# Steps are chains of moves

The inversion lemma of the helper's step function, `step_moves`: whatever the label, a step is a
chain of moves, after a closure has been taken out of the hands of the client where the label
runs one.  It needs the generations to be in order and the handles that frames ask about to be
issued, and it hands these facts on, so an invariant of the moves is an invariant of every run
(`invariant_of_reachable`).
-/

namespace TorOnion

open Relation (ReflTransGen)

/-! ## The scan of `ProcessCleanupTasks` -/

section Scan

variable {status : Fence → VkResult} {es : List TasksForFence} {retired result lo hi : ℕ}

/-- The scan only asks for statuses, and reports what it is told. -/
lemma scanFences_events {event : Event} (h : event ∈ (scanFences status es retired).2) :
    ∃ fence, event = .getFenceStatus fence (status fence) := by
  induction es generalizing retired with
  | nil => simp [scanFences] at h
  | cons e es ih =>
      rw [scanFences] at h
      cases hfence : e.fence with
      | none =>
          rw [hfence] at h
          exact ih h
      | some fence =>
          cases hstatus : status fence <;> simp only [hfence, hstatus, List.mem_cons,
            List.not_mem_nil, or_false] at h
          · rcases h with rfl | h
            · exact ⟨fence, by rw [hstatus]⟩
            · exact ih h
          · exact ⟨fence, hstatus ▸ h⟩
          · exact ⟨fence, hstatus ▸ h⟩

/-- The scan stays between bounds on where it starts and on the queue. -/
lemma scanFences_bounds (hscan : (scanFences status es retired).1 = some result)
    (hlow : lo ≤ retired) (hhigh : retired < hi)
    (hes : ∀ e ∈ es, lo < e.generationId ∧ e.generationId < hi) : lo ≤ result ∧ result < hi := by
  induction es generalizing retired with
  | nil =>
      obtain rfl : retired = result := by simpa [scanFences] using hscan
      exact ⟨hlow, hhigh⟩
  | cons e es ih =>
      have he := hes e List.mem_cons_self
      have hes' : ∀ e ∈ es, lo < e.generationId ∧ e.generationId < hi :=
        fun e he => hes e (List.mem_cons_of_mem _ he)
      rw [scanFences] at hscan
      cases hfence : e.fence with
      | none =>
          rw [hfence] at hscan
          exact ih hscan hlow hhigh hes'
      | some fence =>
          cases hstatus : status fence <;> simp only [hfence, hstatus] at hscan
          · exact ih hscan (by omega) (by omega) hes'
          · obtain rfl := Option.some.inj hscan
            omega
          · cases hscan

/-- **What retires has been reported.**  In a sorted queue the entries up to the result of the
scan were all visited: a fence among them was reported as signalled.  Entries of callbacks are
passed over, and the first fence that is not ready pulls the result below itself. -/
lemma scanFences_spec (hscan : (scanFences status es retired).1 = some result)
    (hsorted : es.Pairwise fun e e' => e.generationId < e'.generationId)
    (hpos : ∀ e ∈ es, 0 < e.generationId) :
    ∀ e ∈ es, e.generationId ≤ result → ∀ fence, e.fence = some fence →
      .getFenceStatus fence .success ∈ (scanFences status es retired).2 := by
  induction es generalizing retired with
  | nil => simp
  | cons e es ih =>
      obtain ⟨hhead, htail⟩ := List.pairwise_cons.mp hsorted
      have hpos' : ∀ e ∈ es, 0 < e.generationId := fun e he => hpos e (List.mem_cons_of_mem _ he)
      rw [scanFences] at hscan ⊢
      intro e' he' hle fence' hfence'
      cases hfence : e.fence with
      | none =>
          rw [hfence] at hscan
          rcases List.mem_cons.mp he' with rfl | he'
          · rw [hfence] at hfence'
            cases hfence'
          · exact ih hscan htail hpos' e' he' hle fence' hfence'
      | some fence =>
          cases hstatus : status fence <;> simp only [hfence, hstatus] at hscan ⊢
          · rcases List.mem_cons.mp he' with rfl | he'
            · obtain rfl : fence = fence' := Option.some.inj (hfence.symm.trans hfence')
              exact List.mem_cons_self
            · exact List.mem_cons_of_mem _ (ih hscan htail hpos' e' he' hle fence' hfence')
          · -- no entry from here on is at or below the result
            obtain rfl := Option.some.inj hscan
            have hmin : e'.generationId ≤ e.generationId - 1 := hle.trans (Nat.min_le_right _ _)
            have he0 := hpos e List.mem_cons_self
            rcases List.mem_cons.mp he' with rfl | he'
            · omega
            · have := hhead e' he'
              omega
          · cases hscan

end Scan

namespace World

variable {flat : Bool} {w w' : World} {vk : VkAnswers} {next : Continuation}

/-! ## Logs grow -/

lemma emit_emit (events events' : List Event) :
    (w.emit events).emit events' = w.emit (events ++ events') := by
  simp [emit]

lemma Move.log_extends (h : Move flat w w') : w.log <+: w'.log := by
  cases h <;> first | exact List.prefix_rfl | exact List.prefix_append _ _

lemma moves_log_extends (h : ReflTransGen (Move flat) w w') : w.log <+: w'.log := by
  induction h with
  | refl => exact List.prefix_rfl
  | tail _ h ih => exact ih.trans h.log_extends

lemma submissions_extend {log log' : List Event} (h : log <+: log') :
    submissions log <+: submissions log' := by
  obtain ⟨new, rfl⟩ := h
  rw [submissions_append]
  exact List.prefix_append _ _

lemma issued_mono (h : w.log <+: w'.log) {handle : FenceHandle} (hissued : w.issued handle) :
    w'.issued handle :=
  hissued.imp_right fun hmem => ((submissions_extend h).map _).subset hmem

/-! ## Well-formed worlds -/

/-- What `step_moves` needs.  In a flat run at most one call is in progress. -/
structure WellFormed (flat : Bool) (w : World) : Prop where
  ordered : w.Ordered
  issued : ∀ frame ∈ w.stack, ∀ handle ∈ frame.next.handle?, w.issued handle
  shallow : flat = true → w.stack.length ≤ 1

lemma wellFormed_init : WellFormed flat {} where
  ordered := ordered_init
  issued := by simp
  shallow := by simp

/-- A frame that is pushed asks about an issued handle, and is alone in a flat run. -/
lemma WellFormed.push_frame (h : w.WellFormed flat) (hlog : w.log <+: w'.log) {frame : Frame}
    (hstack : w'.stack = frame :: w.stack) (hflat : flat = true → w.stack = [])
    (hnext : ∀ handle ∈ frame.next.handle?, w.issued handle) :
    (∀ frame ∈ w'.stack, ∀ handle ∈ frame.next.handle?, w'.issued handle) ∧
      (flat = true → w'.stack.length ≤ 1) := by
  refine ⟨fun frame' hframe' handle hhandle => ?_, fun hf => by simp [hstack, hflat hf]⟩
  rw [hstack] at hframe'
  rcases List.mem_cons.mp hframe' with rfl | hframe'
  · exact issued_mono hlog (hnext handle hhandle)
  · exact issued_mono hlog (h.issued frame' hframe' handle hhandle)

/-- Frames whose continuations are among the old ones. -/
lemma WellFormed.same_frames (h : w.WellFormed flat) (w' : World) (hlog : w.log <+: w'.log)
    (hnext : w'.stack.map Frame.next <:+ w.stack.map Frame.next) :
    (∀ frame ∈ w'.stack, ∀ handle ∈ frame.next.handle?, w'.issued handle) ∧
      (flat = true → w'.stack.length ≤ 1) := by
  constructor
  · intro frame hframe handle hhandle
    obtain ⟨frame', hframe', heq⟩ :=
      List.mem_map.mp (hnext.subset (List.mem_map_of_mem hframe))
    exact issued_mono hlog (h.issued frame' hframe' handle (heq ▸ hhandle))
  · intro hf
    have hlen := hnext.length_le
    rw [List.length_map, List.length_map] at hlen
    exact hlen.trans (h.shallow hf)

lemma WellFormed.move (h : w.WellFormed flat) (hmove : Move flat w w') : w'.WellFormed flat := by
  have hframes : (∀ frame ∈ w'.stack, ∀ handle ∈ frame.next.handle?, w'.issued handle) ∧
      (flat = true → w'.stack.length ≤ 1) := by
    have hlog := hmove.log_extends
    cases hmove with
    | retireAll deviceLost next hflat hnext => exact h.push_frame hlog rfl hflat hnext
    | retire retired next hflat hnext => exact h.push_frame hlog rfl hflat hnext
    | push next hflat hnext => exact h.push_frame hlog rfl hflat hnext
    | startTask task frame frames tasks hstack htasks =>
        exact h.same_frames _ hlog (by rw [hstack]; exact List.suffix_rfl)
    | endTask frame frames hstack =>
        exact h.same_frames _ hlog (by rw [hstack]; exact List.suffix_rfl)
    | pop frame frames hstack htasks =>
        exact h.same_frames _ hlog (by rw [hstack]; exact List.suffix_cons _ _)
    | _ => exact h.same_frames _ hlog List.suffix_rfl
  exact ⟨h.ordered.move hmove, hframes.1, hframes.2⟩

lemma WellFormed.moves (h : w.WellFormed flat) (hmoves : ReflTransGen (Move flat) w w') :
    w'.WellFormed flat :=
  invariant_of_run (fun _ _ h hmove => h.move hmove) hmoves h

/-! ## The functions as chains of moves -/

/-- A fence that is reported as signalled has signalled. -/
lemma signal_of_fenceStatus {fence : Fence} (h : w.fenceStatus vk fence = .success) :
    .signal fence ∈ w.log := by
  unfold fenceStatus at h
  split_ifs at h with _ hsignal
  exact hsignal

lemma emit_statuses_moves {events : List Event}
    (h : ∀ event ∈ events, ∃ fence result, event = .getFenceStatus fence result ∧
      (result = .success → .signal fence ∈ w.log)) :
    ReflTransGen (Move flat) w (w.emit events) := by
  induction events generalizing w with
  | nil => simp only [emit, List.append_nil]; exact .refl
  | cons event events ih =>
      obtain ⟨fence, result, rfl, hallowed⟩ := h _ List.mem_cons_self
      refine .head (.event w (.getFenceStatus fence result) hallowed) ?_
      have hrest : w.emit (.getFenceStatus fence result :: events) =
          (w.emit [.getFenceStatus fence result]).emit events :=
        (emit_emit [.getFenceStatus fence result] events).symm
      rw [hrest]
      refine ih fun event hevent => ?_
      obtain ⟨fence', result', rfl, hallowed'⟩ := h _ (List.mem_cons_of_mem _ hevent)
      exact ⟨fence', result', rfl, fun hr => List.mem_append_left _ (hallowed' hr)⟩

lemma performImmediateCleanup_moves (hflat : flat = true → w.stack = [])
    (hnext : ∀ handle ∈ next.handle?, w.issued handle)
    (h : w.performImmediateCleanup vk next = some w') : ReflTransGen (Move flat) w w' := by
  unfold performImmediateCleanup at h
  split_ifs at h
  · obtain rfl := Option.some.inj h
    exact .single (.push w next hflat hnext)
  · obtain rfl := Option.some.inj h
    exact .single (.retireAll w _ next hflat hnext)

/-- Where the scan of `ProcessCleanupTasks` starts. -/
def scanStart (generation : ℕ) (w : World) : ℕ :=
  if generation = 0 then w.currentGeneration else generation

/-- The world after the scan of `ProcessCleanupTasks`. -/
def afterScan (vk : VkAnswers) (generation : ℕ) (w : World) : World :=
  w.emit (.processCalled generation (queuedFences (w.fenceStatus vk) w.cleanupTasks) ::
    (scanFences (w.fenceStatus vk) w.cleanupTasks (w.scanStart generation)).2)

/-- `ProcessCleanupTasks` cleans up everything when the scan fails, and otherwise retires what
the scan found. -/
lemma processCleanupTasks_cases {generation : ℕ}
    (h : w.processCleanupTasks vk generation next = some w') :
    (scanFences (w.fenceStatus vk) w.cleanupTasks (w.scanStart generation)).1 = none ∧
        (w.afterScan vk generation).performImmediateCleanup vk next = some w' ∨
      ∃ retired,
        (scanFences (w.fenceStatus vk) w.cleanupTasks (w.scanStart generation)).1 = some retired ∧
          w' = (w.afterScan vk generation).retire retired next := by
  cases hscan : (scanFences (w.fenceStatus vk) w.cleanupTasks (w.scanStart generation)).1 with
  | none =>
      simp only [scanStart] at hscan
      simp only [processCleanupTasks, hscan] at h
      exact .inl ⟨rfl, h⟩
  | some retired =>
      simp only [scanStart] at hscan
      simp only [processCleanupTasks, hscan, Option.some.injEq] at h
      exact .inr ⟨retired, rfl, h.symm⟩

lemma afterScan_moves {generation : ℕ} :
    ReflTransGen (Move flat) w (w.afterScan vk generation) := by
  set called := Event.processCalled generation (queuedFences (w.fenceStatus vk) w.cleanupTasks)
  have hsplit : w.afterScan vk generation = (w.emit [called]).emit
      (scanFences (w.fenceStatus vk) w.cleanupTasks (w.scanStart generation)).2 :=
    (emit_emit [called] _).symm
  rw [hsplit]
  refine .head (.event w called trivial) (emit_statuses_moves fun event hevent => ?_)
  obtain ⟨fence, rfl⟩ := scanFences_events hevent
  exact ⟨fence, _, rfl, fun hr => List.mem_append_left _ (signal_of_fenceStatus hr)⟩

lemma processCleanupTasks_moves (hord : w.Ordered) {generation : ℕ}
    (hgeneration : generation = 0 ∨
      w.currentGeneration ≤ generation ∧ generation < w.nextGeneration)
    (hflat : flat = true → w.stack = []) (hnext : ∀ handle ∈ next.handle?, w.issued handle)
    (h : w.processCleanupTasks vk generation next = some w') :
    ReflTransGen (Move flat) w w' := by
  have hscanned : ReflTransGen (Move flat) w (w.afterScan vk generation) := afterScan_moves
  have hnext' : ∀ handle ∈ next.handle?, (w.afterScan vk generation).issued handle :=
    fun handle hhandle => issued_mono (moves_log_extends hscanned) (hnext handle hhandle)
  rcases processCleanupTasks_cases h with ⟨-, h⟩ | ⟨retired, hscan, rfl⟩
  · exact hscanned.trans (performImmediateCleanup_moves hflat hnext' h)
  · have hstart : w.currentGeneration ≤ w.scanStart generation ∧
        w.scanStart generation < w.nextGeneration := by
      have := hord.current_lt
      unfold scanStart
      split_ifs <;> omega
    have hpos : ∀ e ∈ w.cleanupTasks, 0 < e.generationId :=
      fun e he => Nat.zero_lt_of_lt (hord.mem_queue_bounds he).1
    obtain ⟨hlow, hhigh⟩ :=
      scanFences_bounds hscan hstart.1 hstart.2 fun e he => hord.mem_queue_bounds he
    refine hscanned.tail (.retire _ retired next hflat hnext' hlow hhigh ?_)
    intro e he hle fence hfence
    have hreported := scanFences_spec hscan hord.queue_sorted hpos e he hle fence hfence
    exact List.mem_append_right _ (List.mem_cons_of_mem _ hreported)

lemma generateCleanupFence_moves {created submitted : Bool} (hflat : flat = true → w.stack = [])
    (h : w.generateCleanupFence created submitted vk = some w') :
    ReflTransGen (Move flat) w w' := by
  have hdone : ∀ {v : World}, ∀ handle ∈ Continuation.done.handle?, v.issued handle := by
    simp [Continuation.handle?]
  unfold generateCleanupFence at h
  split_ifs at h
  · obtain rfl := Option.some.inj h
    exact .refl
  · exact performImmediateCleanup_moves hflat hdone h
  · exact .head (.failFence w) (performImmediateCleanup_moves hflat hdone h)
  · obtain rfl := Option.some.inj h
    exact .single (.submitFresh w)

/-! ## Steps -/

/-- A closure is taken out of the hands of the client and starts to run. -/
def startCallback (generationId : ℕ) (w : World) : World :=
  { w with callbacks := w.callbacks.erase generationId }.emit [.callbackRun generationId]

lemma WellFormed.startCallback (h : w.WellFormed flat) (generationId : ℕ) :
    (w.startCallback generationId).WellFormed flat := by
  have hframes := h.same_frames (w.startCallback generationId) (List.prefix_append _ _)
    List.suffix_rfl
  refine ⟨h.ordered.congr ?_ rfl rfl rfl fun _ => List.mem_of_mem_erase, hframes.1, hframes.2⟩
  exact (submissions_append _ _).trans (List.append_nil _)

/-- A step of a run.  In a flat run a call is made only when no call is in progress. -/
def Step (flat : Bool) (w w' : World) : Prop :=
  ∃ label, w.step label = some w' ∧
    (flat = true → ∀ c, label = .call c → w.stack = [])

/-- The worlds that runs arrive at. -/
def Reachable (flat : Bool) (w : World) : Prop := ReflTransGen (Step flat) {} w

lemma resume_moves {waited : Bool} (hord : w.Ordered) (hflat : flat = true → w.stack = [])
    (hnext : ∀ handle ∈ next.handle?, w.issued handle) (h : w.resume vk waited next = some w') :
    ReflTransGen (Move flat) w w' := by
  cases next with
  | done =>
      obtain rfl := Option.some.inj h
      exact .refl
  | hasPassed handle =>
      obtain rfl := Option.some.inj h
      exact .single (.event w _ ⟨hnext handle rfl, rfl⟩)
  | waitDone handle result =>
      obtain rfl := Option.some.inj h
      exact .single (.event w (.waitReturned handle result) trivial)
  | wait handle =>
      have hissued := hnext handle rfl
      have hasked : Move flat w (w.emit [.hasPassed handle (w.passed handle)]) :=
        .event w _ ⟨hissued, rfl⟩
      simp only [resume] at h
      split_ifs at h with hpassed
      · obtain rfl := Option.some.inj h
        exact .head hasked (.single (.event _ (.waitReturned handle true) trivial))
      · have hissued' := issued_mono hasked.log_extends hissued
        have hwaits : Move flat (w.emit [.hasPassed handle (w.passed handle)])
            ((w.emit [.hasPassed handle (w.passed handle)]).emit
              [.waitForFences handle.fence waited]) :=
          .event _ _ ⟨handle, hissued', rfl, Bool.not_eq_true _ ▸ hpassed⟩
        refine .head hasked (.head hwaits (processCleanupTasks_moves ?_ (.inl rfl) hflat ?_ h))
        · exact (hord.move hasked).move hwaits
        · simp [Continuation.handle?]

lemma call_moves (hord : w.Ordered) (hflat : flat = true → w.stack = []) {c : Call}
    (h : w.call c = some w') :
    ReflTransGen (Move flat) w w' ∨
      ∃ g ∈ w.callbacks, (∃ vk, c = .runCallback g vk) ∧
        ReflTransGen (Move flat) (w.startCallback g) w' := by
  have hdone : ∀ {v : World}, ∀ handle ∈ Continuation.done.handle?, v.issued handle := by
    simp [Continuation.handle?]
  cases c with
  | enqueueCleanupTask =>
      obtain rfl := Option.some.inj h
      exact .inl (.single (.enqueueTask w))
  | getFence created =>
      obtain rfl := Option.some.inj h
      cases created
      · exact .inl .refl
      · exact .inl (.single (.createFence w))
  | enqueueFence fence =>
      cases fence with
      | none =>
          obtain rfl := Option.some.inj h
          exact .inl (.single (.submitNull w))
      | some fence =>
          simp only [call] at h
          split_ifs at h with hclient
          obtain rfl := Option.some.inj h
          exact .inl (.single (.submitClient w fence hclient))
  | generateCleanupFence created submitted vk => exact .inl (generateCleanupFence_moves hflat h)
  | createExternalCallback =>
      obtain rfl := Option.some.inj h
      unfold createExternalCallback
      split_ifs
      · exact .inl .refl
      · exact .inl (.single (.submitCallback w))
  | runCallback generation vk =>
      simp only [call] at h
      split_ifs at h with hheld
      refine .inr ⟨generation, hheld, ⟨vk, rfl⟩, ?_⟩
      have hord' : (w.startCallback generation).Ordered :=
        hord.congr ((submissions_append _ _).trans (List.append_nil _)) rfl rfl rfl
          fun _ => List.mem_of_mem_erase
      simp only [runCallback] at h
      split_ifs at h with hgreater
      · have hgreater : w.currentGeneration < generation := hgreater
        obtain ⟨e, he, rfl, -⟩ := hord.callbacks generation hheld
        exact processCleanupTasks_moves hord' (.inr ⟨hgreater.le, (hord.bounds e he).2⟩) hflat
          hdone h
      · obtain rfl := Option.some.inj h
        exact .refl
  | hasPassed handle vk =>
      simp only [call] at h
      split_ifs at h with hissued
      refine .inl (processCleanupTasks_moves hord (.inl rfl) hflat ?_ h)
      exact fun _ hhandle => Option.some.inj hhandle ▸ hissued
  | wait handle vk =>
      simp only [call] at h
      split_ifs at h with hissued
      refine .inl (processCleanupTasks_moves hord (.inl rfl) hflat ?_ h)
      exact fun _ hhandle => Option.some.inj hhandle ▸ hissued
  | processCleanupTasks vk =>
      exact .inl (processCleanupTasks_moves hord (.inl rfl) hflat hdone h)
  | performImmediateCleanup vk => exact .inl (performImmediateCleanup_moves hflat hdone h)

/-- **A step is a chain of moves**, after a closure has been taken where one is run. -/
theorem step_moves (hwf : w.WellFormed flat) {label : Label} (hstep : w.step label = some w')
    (hflat : flat = true → ∀ c, label = .call c → w.stack = []) :
    ReflTransGen (Move flat) w w' ∨
      ∃ g ∈ w.callbacks, (∃ vk, label = .call (.runCallback g vk)) ∧
        ReflTransGen (Move flat) (w.startCallback g) w' := by
  cases label with
  | call c =>
      simp only [step] at hstep
      split_ifs at hstep
      refine (call_moves hwf.ordered (fun hf => hflat hf c rfl) hstep).imp_right ?_
      rintro ⟨g, hheld, ⟨vk, rfl⟩, hmoves⟩
      exact ⟨g, hheld, ⟨vk, rfl⟩, hmoves⟩
  | signal fence =>
      obtain rfl := Option.some.inj hstep
      exact .inl (.single (.event w (.signal fence) trivial))
  | startTask =>
      simp only [step] at hstep
      split at hstep
      next task tasks immediate deviceLost next frames hstack =>
        obtain rfl := Option.some.inj hstep
        exact .inl (.single (.startTask w task _ frames tasks hstack rfl))
      next => cases hstep
  | endTask =>
      simp only [step] at hstep
      split at hstep
      next tasks immediate deviceLost next frames hstack =>
        obtain rfl := Option.some.inj hstep
        exact .inl (.single (.endTask w _ frames hstack))
      next => cases hstep
  | finish vk waited =>
      simp only [step] at hstep
      split at hstep
      next immediate deviceLost next frames hstack =>
        have hpop : Move flat w { w with stack := frames } := .pop w _ frames hstack rfl
        have hshallow : flat = true → frames = [] := by
          intro hf
          have hlen := hwf.shallow hf
          rw [hstack, List.length_cons] at hlen
          exact List.eq_nil_of_length_eq_zero (by omega)
        refine .inl (.head hpop (resume_moves (hwf.ordered.move hpop) hshallow ?_ hstep))
        exact hwf.issued ⟨[], false, immediate, deviceLost, next⟩
          (hstack ▸ List.mem_cons_self)
      next => cases hstep

/-! ## Invariants of runs -/

/-- The invariant rule of the helper: what the moves keep in well-formed worlds, and what taking
a closure keeps, holds in every world that is reached. -/
theorem invariant_of_reachable {I : World → Prop} (hinit : I {})
    (hmove : ∀ w w', w.WellFormed flat → I w → Move flat w w' → I w')
    (hcallback : ∀ w g, I w → I (w.startCallback g)) (h : Reachable flat w) :
    w.WellFormed flat ∧ I w := by
  have hmoves : ∀ w w', w.WellFormed flat ∧ I w → ReflTransGen (Move flat) w w' →
      w'.WellFormed flat ∧ I w' := fun w w' hw hchain =>
    invariant_of_run (I := fun w => w.WellFormed flat ∧ I w)
      (fun _ _ h hm => ⟨h.1.move hm, hmove _ _ h.1 h.2 hm⟩) hchain hw
  refine invariant_of_run (I := fun w => w.WellFormed flat ∧ I w) (fun w w' hw hstep => ?_) h
    ⟨wellFormed_init, hinit⟩
  obtain ⟨label, hstep, hflat⟩ := hstep
  rcases step_moves hw.1 hstep hflat with hchain | ⟨g, -, -, hchain⟩
  · exact hmoves _ _ hw hchain
  · exact hmoves _ _ ⟨hw.1.startCallback g, hcallback _ g hw.2⟩ hchain

lemma wellFormed_of_reachable (h : Reachable flat w) : w.WellFormed flat :=
  (invariant_of_reachable (I := fun _ => True) trivial (fun _ _ _ _ _ => trivial)
    (fun _ _ _ => trivial) h).1

/-- A run, step by step. -/
def run (w : World) (labels : List Label) : Option World := labels.foldlM step w

lemma run_steps (labels : List Label) (h : w.run labels = some w') :
    ReflTransGen (Step false) w w' :=
  ReflTransGen.mono (fun _ _ ⟨label, hstep⟩ => ⟨label, hstep, nofun⟩) _ _ (run_of_foldlM labels h)

end World

end TorOnion
