import TorOnion.VulkanFence.Accounting

/-!
# Fences are destroyed when they have signalled

A fence is handed out once, submitted at most once, and destroyed only when its entry leaves the
queue (`Fenced`).  What the log knows about an entry that leaves is carried along (`History`):
`ProcessCleanupTasks` was told that its fence has signalled, and `PerformImmediateCleanup` has
waited for the queue.

The exception is `GenerateCleanupFence`: the fence it has just created is destroyed when
`vkQueueSubmit` fails, without being asked for its status (`destroyed_without_status`).  The
result, `fences_safe`, says of that fence that it is never enqueued, so no task waits for it.
-/

namespace TorOnion

open Relation (ReflTransGen)

/-! ## What the log says -/

/-- The queue was waited for after an entry was submitted. -/
def IdleAfter (log : List Event) (entry : TasksForFence) : Prop :=
  ∃ pre deviceLost post, log = pre ++ .queueWaitIdle deviceLost :: post ∧
    entry ∈ submissions pre

/-- The fence of an entry has signalled, or the queue was waited for. -/
def Released (log : List Event) (entry : TasksForFence) : Prop :=
  ∀ fence, entry.fence = some fence → .signal fence ∈ log ∨ IdleAfter log entry

/-- A task was submitted under no fence, or under a fence that was reported as signalled. -/
def Cleared (log : List Event) (task : CleanupTask) : Prop :=
  ∃ e ∈ submissions log, task ∈ e.tasks ∧
    ∀ fence, e.fence = some fence → .getFenceStatus fence .success ∈ log

/-- What holds of the log before an event. -/
def Lawful (pre : List Event) : Event → Prop
  | .destroyFence fence .process => .getFenceStatus fence .success ∈ pre
  | .taskRun task false _ => Cleared pre task
  | .hasPassed handle true =>
      handle = {} ∨ ∃ e ∈ submissions pre, e.handle = handle ∧ Released pre e
  | .waitForFences (some fence) _ => ∀ site, .destroyFence fence site ∉ pre
  | _ => True

section Logs

variable {log log' : List Event}

lemma mem_submissions_mono (h : log <+: log') {e : TasksForFence} (he : e ∈ submissions log) :
    e ∈ submissions log' := by
  obtain ⟨new, rfl⟩ := h
  rw [submissions_append]
  exact List.mem_append_left _ he

lemma Released.mono {e : TasksForFence} (h : Released log e) (hlog : log <+: log') :
    Released log' e := by
  intro fence hfence
  refine (h fence hfence).imp (fun hsignal => hlog.subset hsignal) ?_
  rintro ⟨pre, deviceLost, post, rfl, he⟩
  obtain ⟨new, rfl⟩ := hlog
  exact ⟨pre, deviceLost, post ++ new, by simp, he⟩

lemma Cleared.mono {task : CleanupTask} (h : Cleared log task) (hlog : log <+: log') :
    Cleared log' task := by
  obtain ⟨e, he, htask, hfence⟩ := h
  exact ⟨e, mem_submissions_mono hlog he, htask, fun fence hf => hlog.subset (hfence fence hf)⟩

end Logs

namespace World

variable {flat : Bool} {w w' : World}

/-! ## Fences -/

/-- The fences that were handed out and not destroyed unused: those of the client and those that
were submitted. -/
def knownFences (w : World) : List Fence :=
  w.clientFences ++ (submissions w.log).filterMap TasksForFence.fence

/-- Fences are handed out once. -/
lemma Move.knownFences (hmove : Move flat w w') :
    ∃ new, w'.knownFences.Perm (w.knownFences ++ new) ∧ new.Sublist [w.nextFence] ∧
      w.nextFence + new.length ≤ w'.nextFence := by
  have hkept : w'.clientFences = w.clientFences → submissions w'.log = submissions w.log →
      w.nextFence ≤ w'.nextFence → ∃ new, w'.knownFences.Perm (w.knownFences ++ new) ∧
        new.Sublist [w.nextFence] ∧ w.nextFence + new.length ≤ w'.nextFence := by
    intro hclient hsub hle
    refine ⟨[], .of_eq ?_, List.nil_sublist _, hle⟩
    rw [World.knownFences, hclient, hsub, List.append_nil, World.knownFences]
  have hsubmits : ∀ (v : World) (fence : Option Fence), (v.enqueueFence fence).knownFences =
      v.knownFences ++ fence.toList := by
    intro v fence
    cases fence <;> simp [World.knownFences, enqueueFence, submissions, Event.entry?]
  cases hmove with
  | event event hallowed => exact hkept rfl (submissions_allowed hallowed) le_rfl
  | createFence =>
      refine ⟨[w.nextFence], ?_, .refl _, le_rfl⟩
      simp only [World.knownFences, List.append_assoc]
      exact List.Perm.append_left _ List.perm_append_comm
  | submitNull => exact ⟨[], .of_eq (hsubmits w none), List.nil_sublist _, le_rfl⟩
  | submitCallback => exact ⟨[], .of_eq (hsubmits w none), List.nil_sublist _, le_rfl⟩
  | submitFresh =>
      exact ⟨[w.nextFence], .of_eq (hsubmits _ (some w.nextFence)), .refl _, le_rfl⟩
  | submitClient fence hmem =>
      -- the fence moves from the client's to the submitted ones
      refine ⟨[], (List.Perm.of_eq (hsubmits _ (some fence))).trans ?_, List.nil_sublist _, le_rfl⟩
      rw [List.append_nil, Option.toList_some, World.knownFences, World.knownFences]
      refine List.perm_append_comm.trans ?_
      exact (List.perm_cons_erase hmem).symm.append_right _
  | failFence =>
      exact hkept rfl (by simp [emit, submissions, Event.entry?]) (Nat.le_succ _)
  | retireAll deviceLost next => exact hkept rfl (w.submissions_retireAll deviceLost next) le_rfl
  | retire => exact hkept rfl (by simp [World.retire]) le_rfl
  | startTask => exact hkept rfl (by simp [emit, submissions, Event.entry?]) le_rfl
  | _ => exact hkept rfl rfl le_rfl

/-- Fences are handed out once, submitted at most once, and destroyed when their entry has left
the queue, or without having been submitted. -/
structure Fenced (w : World) : Prop where
  nodup : w.knownFences.Nodup
  lt : ∀ fence ∈ w.knownFences, fence < w.nextFence
  destroyed : ∀ fence site, .destroyFence fence site ∈ w.log →
    fence < w.nextFence ∧ fence ∉ w.clientFences ∧
      ∀ e ∈ submissions w.log, e.fence = some fence →
        site ≠ .submitFailed ∧ e.generationId ≤ w.currentGeneration

lemma mem_knownFences {e : TasksForFence} (he : e ∈ submissions w.log) {fence : Fence}
    (hfence : e.fence = some fence) : fence ∈ w.knownFences :=
  List.mem_append_right _ (List.mem_filterMap.mpr ⟨e, he, hfence⟩)

/-- A fence is submitted in one entry only. -/
lemma Fenced.entry_unique (h : w.knownFences.Nodup) {e e' : TasksForFence} {fence : Fence}
    (he : e ∈ submissions w.log) (he' : e' ∈ submissions w.log) (hfence : e.fence = some fence)
    (hfence' : e'.fence = some fence) : e = e' := by
  have hpairs := List.pairwise_filterMap.mp (List.nodup_append.mp h).2.1
  have : Std.Symm fun a b : TasksForFence =>
      ∀ f, a.fence = some f → ∀ f', b.fence = some f' → f ≠ f' :=
    ⟨fun _ _ hr f hf f' hf' heq => hr f' hf' f hf heq.symm⟩
  by_contra hne
  exact hpairs.forall he he' hne fence hfence fence hfence' rfl

lemma Fenced.knownFences_move (h : w.Fenced) (hmove : Move flat w w') :
    w'.knownFences.Nodup ∧ ∀ fence ∈ w'.knownFences, fence < w'.nextFence := by
  obtain ⟨new, hperm, hnew, hle⟩ := hmove.knownFences
  have hold : ∀ fence ∈ w.knownFences, ∀ fence' ∈ new, fence ≠ fence' := by
    intro fence hfence fence' hfence'
    have hlt := h.lt fence hfence
    have heq : fence' = w.nextFence := List.mem_singleton.mp (hnew.subset hfence')
    exact heq ▸ Nat.ne_of_lt hlt
  constructor
  · rw [hperm.nodup_iff, List.nodup_append]
    exact ⟨h.nodup, hnew.nodup (List.nodup_singleton _), hold⟩
  · intro fence hfence
    rcases List.mem_append.mp (hperm.subset hfence) with hfence | hfence
    · exact Nat.lt_of_lt_of_le (h.lt fence hfence) (Nat.le_of_add_right_le hle)
    · rw [List.mem_singleton.mp (hnew.subset hfence)]
      exact Nat.lt_of_lt_of_le (Nat.lt_add_of_pos_right (List.length_pos_of_mem hfence)) hle

/-- The client gets fresh fences only. -/
lemma Move.mem_clientFences (hmove : Move flat w w') {fence : Fence}
    (h : fence ∈ w'.clientFences) : fence ∈ w.clientFences ∨ fence = w.nextFence := by
  cases hmove with
  | createFence => exact (List.mem_append.mp h).imp_right List.mem_singleton.mp
  | submitClient => exact .inl (List.mem_of_mem_erase h)
  | _ => exact .inl h

/-- A fence that is submitted is the client's or fresh. -/
lemma Move.mem_submissions (hmove : Move flat w w') {e : TasksForFence} {fence : Fence}
    (he : e ∈ submissions w'.log) (hfence : e.fence = some fence) :
    e ∈ submissions w.log ∨ fence ∈ w.clientFences ∨ fence = w.nextFence := by
  have hentry : ∀ fence', w'.log =
      w.log ++ [.submitted ⟨fence', w.nextGeneration, w.tasksPendingFence⟩] →
      e ∈ submissions w.log ∨ fence' = some fence := by
    intro fence' hlog
    rw [hlog, submissions_append] at he
    refine (List.mem_append.mp he).imp_right fun hnew => ?_
    obtain rfl := List.mem_singleton.mp hnew
    exact hfence
  have hold : submissions w'.log = submissions w.log → e ∈ submissions w.log :=
    fun hsub => hsub ▸ he
  cases hmove with
  | submitNull => exact .inl ((hentry none rfl).resolve_right nofun)
  | submitCallback => exact .inl ((hentry none rfl).resolve_right nofun)
  | submitClient fence' hclient =>
      refine (hentry (some fence') rfl).imp_right fun heq => .inl ?_
      exact Option.some.inj heq ▸ hclient
  | submitFresh => exact (hentry _ rfl).imp_right fun heq => .inr (Option.some.inj heq).symm
  | event event hallowed => exact .inl (hold (submissions_allowed hallowed))
  | failFence => exact .inl (hold (by simp [emit, submissions, Event.entry?]))
  | retireAll deviceLost next => exact .inl (hold (w.submissions_retireAll deviceLost next))
  | retire => exact .inl (hold (by simp [World.retire]))
  | startTask => exact .inl (hold (by simp [emit, submissions, Event.entry?]))
  | _ => exact .inl (hold rfl)

lemma Fenced.move (h : w.Fenced) (hord : w.Ordered) (hmove : Move flat w w') : w'.Fenced := by
  have hknown := h.knownFences_move hmove
  have hcurrent := hord.current_le hmove
  have hnext : w.nextFence ≤ w'.nextFence := by
    obtain ⟨new, -, -, hle⟩ := hmove.knownFences
    exact Nat.le_of_add_right_le hle
  refine ⟨hknown.1, hknown.2, fun fence site hdestroyed => ?_⟩
  -- a fence that was destroyed before is not known, or has retired
  have hold : .destroyFence fence site ∈ w.log → fence < w'.nextFence ∧ fence ∉ w'.clientFences ∧
      ∀ e ∈ submissions w'.log, e.fence = some fence →
        site ≠ .submitFailed ∧ e.generationId ≤ w'.currentGeneration := by
    intro hmem
    obtain ⟨hlt, hclient, hretired⟩ := h.destroyed fence site hmem
    have hstale : ¬ (fence ∈ w.clientFences ∨ fence = w.nextFence) :=
      fun h => h.elim hclient (Nat.ne_of_lt hlt)
    refine ⟨Nat.lt_of_lt_of_le hlt hnext, fun hmem => hstale (hmove.mem_clientFences hmem),
      fun e he hfence => ?_⟩
    obtain ⟨hsite, hle⟩ :=
      hretired e ((hmove.mem_submissions he hfence).resolve_right hstale) hfence
    exact ⟨hsite, hle.trans hcurrent⟩
  -- an entry that leaves the queue is the only one of its fence
  have hentry : ∀ e ∈ w.cleanupTasks, e.fence = some fence →
      e.generationId ≤ w'.currentGeneration → site ≠ .submitFailed →
      fence < w'.nextFence ∧ fence ∉ w'.clientFences ∧
        ∀ e ∈ submissions w'.log, e.fence = some fence →
          site ≠ .submitFailed ∧ e.generationId ≤ w'.currentGeneration := by
    intro e he hfence hle hsite
    have hsub : e ∈ submissions w'.log :=
      mem_submissions_mono hmove.log_extends (hord.mem_queue.mp he).1
    refine ⟨hknown.2 _ (mem_knownFences hsub hfence), fun hclient => ?_, fun e' he' hfence' => ?_⟩
    · exact (List.disjoint_of_nodup_append hknown.1) hclient
        (List.mem_filterMap.mpr ⟨e, hsub, hfence⟩)
    · rw [Fenced.entry_unique hknown.1 he' hsub hfence' hfence]
      exact ⟨hsite, hle⟩
  rcases hmove.log_cases hord with ⟨event, hallowed, rfl⟩ | ⟨new, hlog, hadded⟩
  · rcases List.mem_append.mp hdestroyed with hmem | hmem
    · exact hold hmem
    · obtain rfl := List.mem_singleton.mp hmem
      exact hallowed.elim
  · rw [hlog] at hdestroyed
    rcases List.mem_append.mp hdestroyed with hmem | hmem
    · exact hold hmem
    · have hadded := hadded _ hmem
      cases site with
      | process =>
          obtain ⟨⟨e, he, hfence, hle⟩, -⟩ := hadded
          exact hentry e he hfence hle (by decide)
      | immediate =>
          obtain ⟨e, he, hfence, hle⟩ := hadded
          exact hentry e he hfence hle (by decide)
      | submitFailed =>
          obtain ⟨rfl, hfresh, hclient, hsub⟩ := hadded
          have hunknown : w.nextFence ∉ w.knownFences :=
            fun hmem => Nat.lt_irrefl _ (h.lt _ hmem)
          refine ⟨hfresh ▸ Nat.lt_succ_self _, fun hmem => ?_, fun e he hfence => ?_⟩
          · exact hunknown (List.mem_append_left _ (hclient ▸ hmem))
          · exact absurd (mem_knownFences (hsub ▸ he) hfence) hunknown

lemma submissions_startCallback (w : World) (g : ℕ) :
    submissions (w.startCallback g).log = submissions w.log :=
  (submissions_append _ _).trans (List.append_nil _)

lemma Fenced.startCallback (h : w.Fenced) (g : ℕ) : (w.startCallback g).Fenced := by
  have hknown : (w.startCallback g).knownFences = w.knownFences := by
    rw [knownFences, submissions_startCallback]
    rfl
  refine ⟨hknown ▸ h.nodup, hknown ▸ h.lt, fun fence site hmem => ?_⟩
  rw [submissions_startCallback]
  refine h.destroyed fence site ?_
  simpa [World.startCallback, emit] using hmem

/-! ## History -/

/-- What the log knows of the entries that have retired. -/
structure History (w : World) : Prop where
  signalled : ∀ fence, .getFenceStatus fence .success ∈ w.log → .signal fence ∈ w.log
  released : ∀ e ∈ submissions w.log, e.generationId ≤ w.currentGeneration → Released w.log e
  frames : ∀ frame ∈ w.stack, frame.immediate = false → ∀ task ∈ frame.tasksToRun,
    Cleared w.log task
  always : Always Lawful w.log

/-- A handle with a generation belongs to an entry. -/
lemma exists_of_issued {handle : FenceHandle} (h : w.issued handle) :
    handle = {} ∨ ∃ e ∈ submissions w.log, e.handle = handle :=
  h.imp_right List.mem_map.mp

lemma History.signalled_move (h : w.History) (hord : w.Ordered) (hmove : Move flat w w')
    {fence : Fence} (hmem : .getFenceStatus fence .success ∈ w'.log) : .signal fence ∈ w'.log := by
  have hpre := hmove.log_extends
  rcases hmove.log_cases hord with ⟨event, hallowed, rfl⟩ | ⟨new, hlog, hadded⟩
  · rcases List.mem_append.mp hmem with hmem | hmem
    · exact hpre.subset (h.signalled fence hmem)
    · obtain rfl := List.mem_singleton.mp hmem
      exact hpre.subset (hallowed rfl)
  · rw [hlog] at hmem
    rcases List.mem_append.mp hmem with hmem | hmem
    · exact hpre.subset (h.signalled fence hmem)
    · exact (hadded _ hmem).elim

lemma History.released_move (h : w.History) (hord : w.Ordered) (hmove : Move flat w w')
    {e : TasksForFence} (he : e ∈ submissions w'.log)
    (hle : e.generationId ≤ w'.currentGeneration) : Released w'.log e := by
  have hpre := hmove.log_extends
  have hlt := hord.current_lt
  -- an entry that was submitted before and had retired
  have hold : e ∈ submissions w.log → e.generationId ≤ w.currentGeneration →
      Released w'.log e := fun he hle => (h.released e he hle).mono hpre
  have hsame : w'.currentGeneration = w.currentGeneration → Released w'.log e := by
    intro heq
    rw [heq] at hle
    rcases hmove.submissions_cases with hsub | ⟨fence, hlog, -⟩
    · exact hold (hsub ▸ he) hle
    · rw [hlog, submissions_append] at he
      rcases List.mem_append.mp he with he | he
      · exact hold he hle
      · obtain rfl := List.mem_singleton.mp he
        exact absurd hle (Nat.not_le_of_lt hlt)
  cases hmove with
  | retireAll deviceLost next =>
      rw [submissions_retireAll] at he
      refine fun fence _ => .inr ⟨w.log, deviceLost, _, rfl, he⟩
  | retire retired next _ _ _ _ hreported =>
      have hsub : e ∈ submissions w.log := by simpa [World.retire] using he
      by_cases hcurrent : e.generationId ≤ w.currentGeneration
      · exact hold hsub hcurrent
      · have hqueue := hord.mem_queue.mpr ⟨hsub, by omega⟩
        exact fun fence hfence =>
          .inl (hpre.subset (h.signalled fence (hreported e hqueue hle fence hfence)))
  | _ => exact hsame rfl

lemma History.frames_move (h : w.History) (hord : w.Ordered) (hmove : Move flat w w') :
    ∀ frame ∈ w'.stack, frame.immediate = false → ∀ task ∈ frame.tasksToRun,
      Cleared w'.log task := by
  have hpre := hmove.log_extends
  have hold : ∀ frame ∈ w.stack, frame.immediate = false → ∀ task ∈ frame.tasksToRun,
      Cleared w'.log task :=
    fun frame hframe himm task htask => (h.frames frame hframe himm task htask).mono hpre
  -- a new frame on top
  have hpush : ∀ frame : Frame, (frame.immediate = false → ∀ task ∈ frame.tasksToRun,
      Cleared w'.log task) → ∀ frame' ∈ frame :: w.stack, frame'.immediate = false →
      ∀ task ∈ frame'.tasksToRun, Cleared w'.log task := by
    intro frame hnew frame' hframe'
    rcases List.mem_cons.mp hframe' with rfl | hframe'
    · exact hnew
    · exact hold frame' hframe'
  -- the frame on top goes on
  have hnext : ∀ frame frames frame', w.stack = frame :: frames →
      frame'.tasksToRun ⊆ frame.tasksToRun → frame'.immediate = frame.immediate →
      ∀ frame'' ∈ frame' :: frames, frame''.immediate = false → ∀ task ∈ frame''.tasksToRun,
        Cleared w'.log task := by
    intro frame frames frame' hstack htasks himm frame'' hframe'' himm' task htask
    rcases List.mem_cons.mp hframe'' with rfl | hframe''
    · exact hold frame (hstack ▸ List.mem_cons_self) (himm ▸ himm') task (htasks htask)
    · exact hold frame'' (hstack ▸ List.mem_cons_of_mem _ hframe'') himm' task htask
  cases hmove with
  | retireAll deviceLost next => exact hpush _ nofun
  | push next => exact hpush _ nofun
  | retire retired next _ _ _ _ hreported =>
      refine hpush _ fun _ task htask => ?_
      obtain ⟨e, he, htask⟩ := List.mem_flatMap.mp htask
      have hqueue : e ∈ w.cleanupTasks := (List.takeWhile_prefix _).subset he
      have hle : e.generationId ≤ retired := by simpa using List.mem_takeWhile_imp he
      have hcleared : Cleared w.log task :=
        ⟨e, (hord.mem_queue.mp hqueue).1, htask, hreported e hqueue hle⟩
      exact hcleared.mono hpre
  | startTask task frame frames tasks hstack htasks =>
      exact hnext frame frames _ hstack (htasks ▸ List.subset_cons_self task tasks) rfl
  | endTask frame frames hstack => exact hnext frame frames _ hstack (List.Subset.refl _) rfl
  | pop frame frames hstack =>
      exact fun frame' hframe' => hold frame' (hstack ▸ List.mem_cons_of_mem _ hframe')
  | _ => exact hold

lemma lawful_of_allowed (h : w.History) (hfenced : w.Fenced) {event : Event}
    (hallowed : w.Allowed event) : Lawful w.log event := by
  cases event with
  | hasPassed handle result =>
      cases result with
      | false => exact trivial
      | true =>
          have hle : handle.generationId ≤ w.currentGeneration :=
            of_decide_eq_true hallowed.2.symm
          rcases exists_of_issued hallowed.1 with rfl | ⟨e, he, rfl⟩
          · exact .inl rfl
          · exact .inr ⟨e, he, rfl, h.released e he hle⟩
  | waitForFences fence result =>
      cases fence with
      | none => exact trivial
      | some fence =>
          -- a handle that has not passed belongs to an entry that is still queued
          obtain ⟨handle, hissued, hfence, hpassed⟩ := hallowed
          have hlt : w.currentGeneration < handle.generationId :=
            Nat.lt_of_not_le (of_decide_eq_false hpassed)
          intro site hdestroyed
          rcases exists_of_issued hissued with rfl | ⟨e, he, rfl⟩
          · cases hfence
          · have hle := ((hfenced.destroyed fence site hdestroyed).2.2 e he hfence).2
            exact absurd hle (Nat.not_le_of_lt hlt)
  | destroyFence => exact hallowed.elim
  | taskRun => exact hallowed.elim
  | _ => exact trivial

lemma lawful_of_added (h : w.History) {event : Event} (hadded : w.Added w' event)
    {pre : List Event} (hpre : w.log <+: pre) : Lawful pre event := by
  cases event with
  | destroyFence fence site =>
      cases site with
      | process => exact hpre.subset hadded.2
      | _ => exact trivial
  | taskRun task immediate deviceLost =>
      cases immediate with
      | true => exact trivial
      | false =>
          obtain ⟨frame, hframe, htask, himm⟩ := hadded
          exact (h.frames frame hframe himm task htask).mono hpre
  | hasPassed => exact hadded.elim
  | waitForFences => exact hadded.elim
  | _ => exact trivial

lemma History.move (h : w.History) (hfenced : w.Fenced) (hord : w.Ordered)
    (hmove : Move flat w w') : w'.History := by
  refine ⟨fun fence => h.signalled_move hord hmove, fun e => h.released_move hord hmove,
    h.frames_move hord hmove, ?_⟩
  rcases hmove.log_cases hord with ⟨event, hallowed, rfl⟩ | ⟨new, hlog, hadded⟩
  · exact h.always.concat (lawful_of_allowed h hfenced hallowed)
  · rw [hlog]
    exact h.always.append fun event hmem pre hpre => lawful_of_added h (hadded event hmem) hpre

lemma History.startCallback (h : w.History) (g : ℕ) : (w.startCallback g).History := by
  have hpre : w.log <+: (w.startCallback g).log := List.prefix_append _ _
  refine ⟨fun fence hmem => ?_, fun e he hle => ?_, fun frame hframe himm task htask => ?_, ?_⟩
  · refine hpre.subset (h.signalled fence ?_)
    simpa [World.startCallback, emit] using hmem
  · rw [submissions_startCallback] at he
    exact (h.released e he hle).mono hpre
  · exact (h.frames frame hframe himm task htask).mono hpre
  · exact h.always.concat trivial

lemma history_of_reachable (h : Reachable flat w) : w.Fenced ∧ w.History := by
  refine (invariant_of_reachable (I := fun w => w.Fenced ∧ w.History) ?_
    (fun w w' hwf h hmove => ⟨h.1.move hwf.ordered hmove, h.2.move h.1 hwf.ordered hmove⟩)
    (fun w g h => ⟨h.1.startCallback g, h.2.startCallback g⟩) h).2
  constructor
  · constructor <;> simp [knownFences, submissions]
  · constructor <;> simp [submissions, always_nil]

/-! ## The result -/

/-- **A fence is destroyed, and its tasks run, when it has signalled.**  In every world that is
reached, each event of the log finds in the events before it:

* a fence that `ProcessCleanupTasks` destroys was reported as signalled, and so was the fence of a
  task that is run outside `PerformImmediateCleanup`;
* the other fence that is destroyed there, by `GenerateCleanupFence` when it could not submit the
  fence, is not the client's and is never enqueued;
* when `HasPassed` answers true for a handle with a fence, the fence has signalled or the queue
  was waited for after the fence was enqueued;
* a fence that is passed to `vkWaitForFences` has not been destroyed. -/
theorem fences_safe (h : Reachable flat w) {pre post : List Event} {event : Event}
    (hlog : w.log = pre ++ event :: post) :
    (∀ fence, event = .destroyFence fence .process → .getFenceStatus fence .success ∈ pre) ∧
      (∀ fence, event = .destroyFence fence .submitFailed →
        fence ∉ w.clientFences ∧ ∀ e ∈ submissions w.log, e.fence ≠ some fence) ∧
      (∀ task deviceLost, event = .taskRun task false deviceLost →
        ∀ e ∈ submissions w.log, task ∈ e.tasks → ∀ fence, e.fence = some fence →
          .getFenceStatus fence .success ∈ pre) ∧
      (∀ handle fence, event = .hasPassed handle true → handle.fence = some fence →
        .signal fence ∈ pre ∨ ∃ pre' deviceLost mid,
          pre = pre' ++ .queueWaitIdle deviceLost :: mid ∧
            ∃ e ∈ submissions pre', e.handle = handle) ∧
      ∀ fence result, event = .waitForFences (some fence) result →
        ∀ site, .destroyFence fence site ∉ pre := by
  obtain ⟨hfenced, hhistory⟩ := history_of_reachable h
  have hlawful : Lawful pre event := hhistory.always pre event post hlog
  have hpre : pre <+: w.log := hlog ▸ List.prefix_append _ _
  refine ⟨fun fence hevent => ?_, fun fence hevent => ?_,
    fun task deviceLost hevent e he htask => ?_, fun handle fence hevent hfence => ?_,
    fun fence result hevent => ?_⟩
  · subst hevent
    exact hlawful
  · subst hevent
    have hmem : Event.destroyFence fence .submitFailed ∈ w.log := by simp [hlog]
    obtain ⟨-, hclient, hretired⟩ := hfenced.destroyed fence _ hmem
    exact ⟨hclient, fun e he hfence => (hretired e he hfence).1 rfl⟩
  · subst hevent
    obtain ⟨e', he', htask', hcleared⟩ := hlawful
    rw [(tasksSubmitted_of_reachable h).entry_unique he (mem_submissions_mono hpre he') htask
      htask']
    exact hcleared
  · subst hevent
    rcases hlawful with rfl | ⟨e, he, rfl, hreleased⟩
    · cases hfence
    · refine (hreleased fence hfence).imp_right ?_
      rintro ⟨pre', deviceLost, mid, hsplit, hsub⟩
      exact ⟨pre', deviceLost, mid, hsplit, e, hsub, rfl⟩
  · subst hevent
    exact hlawful

/-- Two fences signal; `HasPassed` destroys the first and runs its task, `Wait` finds the second
in the queue. -/
def waitLabels : List Label :=
  [.call (.getFence true), .call .enqueueCleanupTask, .call (.enqueueFence (some 0)),
    .call (.getFence true), .call (.enqueueFence (some 1)), .signal 0,
    .call (.wait ⟨some 1, 2⟩ {}), .startTask, .endTask, .finish {} true]

/-- The fence that `Wait` passes on is still there. -/
theorem fences_safe_wait : ∃ w : World, run {} waitLabels = some w ∧
    ∃ pre post, w.log = pre ++ .waitForFences (some 1) true :: post ∧
      .destroyFence 0 .process ∈ pre ∧ ∀ site, .destroyFence 1 site ∉ pre :=
  ⟨_, rfl, [.submitted ⟨some 0, 1, [0]⟩, .submitted ⟨some 1, 2, []⟩, .signal 0,
      .processCalled 0 [(1, .success), (2, .notReady)], .getFenceStatus 0 .success,
      .getFenceStatus 1 .notReady, .destroyFence 0 .process, .taskRun 0 false false,
      .hasPassed ⟨some 1, 2⟩ false],
    [.processCalled 0 [(2, .notReady)], .getFenceStatus 1 .notReady], rfl, by decide,
    (fences_safe (run_steps waitLabels rfl) rfl).2.2.2.2 1 true rfl⟩

/-- The fence of a submission that fails is destroyed without being asked for its status. -/
theorem destroyed_without_status :
    ¬ ∀ w, Reachable false w → ∀ pre fence site post,
      w.log = pre ++ .destroyFence fence site :: post → site ≠ .immediate →
        .getFenceStatus fence .success ∈ pre := by
  intro h
  have hrun := run_steps (w := {}) [.call .enqueueCleanupTask,
    .call (.generateCleanupFence true false {})] rfl
  have hstatus := h _ hrun [] 0 .submitFailed _ rfl (by decide)
  simp at hstatus

end World

end TorOnion
