import TorOnion.ErrorPage.AutoReloader

/-!
# When a reload is scheduled

The invariant of the reloader, `TimerKept`: a timer is set only while no navigation is pending,
the reloader is online, the tab is visible and an error page can be reloaded, and a reload is in
progress only of such a page.  Each function of the reloader keeps it; what a handler has to
provide is that nothing is pending and the error page is there when it schedules
(`TimerKept.schedule`).

The delays are read off the log: each timer was started with the entry of the table for the
reloads since the last reset (`DelayInTable`), and the timer that is set was started last.
-/

namespace TorOnion

namespace NetErrorAutoReloader

variable {net : NetErrorClasses} {s s' : NetErrorAutoReloader} {handle : NavigationHandle}
  {log : List ReloaderEvent} {timer : OneShotTimer}

/-- A timer is started with the entry of the table for the reloads since the last reset. -/
def DelayInTable (before : List ReloaderEvent) (event : ReloaderEvent) : Prop :=
  ∀ delay, event = .scheduled delay →
    delays[min (reloadsSinceReset before) (delays.length - 1)]? = some delay

/-- The timer was started last, nothing was reset since then, and if it has not fired nothing was
reloaded. -/
def StartedLast (log : List ReloaderEvent) (timer : OneShotTimer) : Prop :=
  ∃ before after, log = before ++ .scheduled timer.delay :: after ∧ .reset ∉ after ∧
    (∀ delay, .scheduled delay ∉ after) ∧ (timer.isRunning = true → .reload ∉ after)

/-- The invariant. -/
structure TimerKept (s : NetErrorAutoReloader) : Prop where
  timer : ∀ timer, s.nextReloadTimer = some timer →
    s.noPending = true ∧ s.isOnline = true ∧ s.isWebContentsVisible = true ∧
      s.currentReloadableErrorPageInfo.isSome = true ∧ StartedLast s.log timer
  progress : s.isAutoReloadInProgress = true → s.currentReloadableErrorPageInfo.isSome = true
  count : s.numReloadsForCurrentError = reloadsSinceReset s.log
  delays : Always DelayInTable s.log
  dchecks : .dcheck false ∉ s.log

lemma timerKept_init (visibility : Visibility) : TimerKept { visibility := visibility } := by
  refine ⟨fun timer h => ?_, fun h => ?_, rfl, always_nil, List.not_mem_nil⟩
  · cases h
  · cases h

/-! ## The log -/

lemma reloadsSinceReset_concat (log : List ReloaderEvent) (event : ReloaderEvent) :
    reloadsSinceReset (log ++ [event]) = match event with
      | .reset => 0
      | .reload => reloadsSinceReset log + 1
      | _ => reloadsSinceReset log := by
  rw [reloadsSinceReset, List.foldl_append]
  cases event <;> rfl

/-- Events that neither reset nor reload do not change the count. -/
lemma reloadsSinceReset_append {after : List ReloaderEvent} (hreset : .reset ∉ after)
    (hreload : .reload ∉ after) : reloadsSinceReset (log ++ after) = reloadsSinceReset log := by
  induction after using List.reverseRecOn with
  | nil => rw [List.append_nil]
  | append_singleton after event ih =>
      rw [List.mem_append, not_or] at hreset hreload
      rw [← List.append_assoc, reloadsSinceReset_concat, ih hreset.1 hreload.1]
      cases event with
      | dcheck holds => rfl
      | scheduled delay => rfl
      | reset => exact absurd (List.mem_singleton.mpr rfl) hreset.2
      | reload => exact absurd (List.mem_singleton.mpr rfl) hreload.2

/-- An event that starts no timer concerns no delay. -/
lemma Always.delayInTable_concat {event : ReloaderEvent} (h : Always DelayInTable log)
    (hevent : ∀ delay, event ≠ .scheduled delay) : Always DelayInTable (log ++ [event]) :=
  h.concat fun delay heq => absurd heq (hevent delay)

lemma StartedLast.concat {event : ReloaderEvent} (h : StartedLast log timer)
    (hreset : event ≠ .reset) (hscheduled : ∀ delay, event ≠ .scheduled delay)
    (hreload : timer.isRunning = true → event ≠ .reload) :
    StartedLast (log ++ [event]) timer := by
  obtain ⟨before, after, rfl, hnoReset, hnoStart, hnoReload⟩ := h
  refine ⟨before, after ++ [event], by simp, ?_, fun delay => ?_, fun hrunning => ?_⟩
  · simpa using ⟨hnoReset, Ne.symm hreset⟩
  · simpa using ⟨hnoStart delay, Ne.symm (hscheduled delay)⟩
  · simpa using ⟨hnoReload hrunning, Ne.symm (hreload hrunning)⟩

/-! ## The functions -/

/-- Without a timer only the other parts matter. -/
lemma TimerKept.of_timer_none (h : TimerKept s) (htimer : s'.nextReloadTimer = none)
    (hnum : s'.numReloadsForCurrentError = s.numReloadsForCurrentError)
    (hprogress : s'.isAutoReloadInProgress = s.isAutoReloadInProgress)
    (hinfo : s'.currentReloadableErrorPageInfo = s.currentReloadableErrorPageInfo)
    (hlog : s'.log = s.log) : TimerKept s' := by
  refine ⟨fun timer heq => ?_, ?_, ?_, ?_, ?_⟩
  · rw [htimer] at heq
    cases heq
  · rw [hprogress, hinfo]
    exact h.progress
  · rw [hnum, hlog]
    exact h.count
  · rw [hlog]
    exact h.delays
  · rw [hlog]
    exact h.dchecks

lemma TimerKept.dcheck {holds : Bool} (h : TimerKept s) (hholds : holds = true) :
    TimerKept (s.dcheck holds) := by
  subst hholds
  refine ⟨fun timer heq => ?_, h.progress, ?_, ?_, ?_⟩
  · obtain ⟨hpending, honline, hvisible, hinfo, hlast⟩ := h.timer timer heq
    exact ⟨hpending, honline, hvisible, hinfo, hlast.concat (by simp) (by simp) (by simp)⟩
  · exact h.count.trans (reloadsSinceReset_concat s.log (.dcheck true)).symm
  · exact Always.delayInTable_concat h.delays (by simp)
  · simpa [NetErrorAutoReloader.dcheck] using h.dchecks

lemma TimerKept.pause (h : TimerKept s) : TimerKept s.pauseAutoReloadTimerIfRunning :=
  h.of_timer_none rfl rfl rfl rfl rfl

lemma TimerKept.reset (h : TimerKept s) : TimerKept s.reset := by
  refine ⟨fun timer heq => ?_, fun heq => ?_, ?_, ?_, ?_⟩
  · cases heq
  · cases heq
  · exact (reloadsSinceReset_concat s.log .reset).symm
  · exact Always.delayInTable_concat h.delays (by simp)
  · simpa [NetErrorAutoReloader.reset] using h.dchecks

/-- **A reload is scheduled** when nothing is pending and there is an error page. -/
lemma TimerKept.schedule (h : TimerKept s) (hpending : s.noPending = true)
    (hinfo : s.currentReloadableErrorPageInfo.isSome = true) :
    TimerKept s.scheduleNextAutoReload := by
  have hchecked := h.dcheck hinfo
  unfold scheduleNextAutoReload
  simp only
  split_ifs with hoff
  · exact hchecked
  · rw [Bool.or_eq_true, not_or, Bool.not_eq_true', Bool.not_eq_true', Bool.not_eq_false,
      Bool.not_eq_false] at hoff
    refine ⟨fun timer heq => ?_, h.progress, ?_, ?_, ?_⟩
    · obtain rfl := Option.some.inj heq
      exact ⟨hpending, hoff.1, hoff.2, hinfo,
        _, [], rfl, List.not_mem_nil, fun _ => List.not_mem_nil, fun _ => List.not_mem_nil⟩
    · exact hchecked.count.trans (reloadsSinceReset_concat _ (.scheduled _)).symm
    · refine hchecked.delays.concat fun delay heq => ?_
      rw [← hchecked.count, getElem?_delays, ReloaderEvent.scheduled.inj heq]
    · simpa using hchecked.dchecks

lemma TimerKept.resume (h : TimerKept s) (hpending : s.noPending = true) :
    TimerKept s.resumeAutoReloadIfPaused := by
  unfold resumeAutoReloadIfPaused
  split_ifs with hcond
  · exact h.schedule hpending (Bool.and_eq_true_iff.mp hcond).1
  · exact h

lemma noPending_erase (id : ℕ) (h : s.noPending = true) : (s.erasePending id).noPending = true := by
  have hkeys : s.pendingNavigations.keys = [] := List.isEmpty_iff.mp h
  rw [noPending, erasePending, AList.keys_erase, hkeys]
  rfl

lemma TimerKept.erasePending (h : TimerKept s) (id : ℕ) : TimerKept (s.erasePending id) := by
  refine ⟨fun timer heq => ?_, h.progress, h.count, h.delays, h.dchecks⟩
  obtain ⟨hpending, hrest⟩ := h.timer timer heq
  exact ⟨noPending_erase id hpending, hrest⟩

/-! ## The handlers -/

lemma TimerKept.didStartNavigation (h : TimerKept s) : TimerKept (s.didStartNavigation handle) := by
  unfold NetErrorAutoReloader.didStartNavigation
  split_ifs
  · exact h
  · refine h.pause.of_timer_none ?_ ?_ ?_ ?_ ?_ <;>
      (unfold emplacePending; split_ifs <;> rfl)

lemma TimerKept.didNotCommit (h : TimerKept s) (isSuppressedErrorPage : Bool) :
    TimerKept (s.didNotCommit isSuppressedErrorPage) := by
  unfold NetErrorAutoReloader.didNotCommit
  split_ifs with hearly hsuppressed
  · exact h
  all_goals
    rw [Bool.or_eq_true, not_or, Bool.not_eq_true', Bool.not_eq_false, Option.isNone_iff_eq_none,
      ← ne_eq, Option.ne_none_iff_isSome] at hearly
    have hkept : TimerKept { s with isAutoReloadInProgress := false } :=
      ⟨h.timer, fun heq => (nomatch heq), h.count, h.delays, h.dchecks⟩
  · exact hkept.schedule hearly.1 hearly.2
  · exact hkept

lemma TimerKept.didCommit (h : TimerKept s) (hcommitted : handle.hasCommitted = true) :
    TimerKept (s.didCommit net handle) := by
  have hchecked := h.dcheck hcommitted
  unfold NetErrorAutoReloader.didCommit
  simp only
  split_ifs with hreload hsame hpending hpending
  · exact hchecked.reset
  · refine hchecked.schedule hpending ?_
    rw [Option.isSome_iff_exists]
    obtain ⟨info, hinfo, -⟩ := Option.map_eq_some_iff.mp hsame.2
    exact ⟨info, hinfo⟩
  · exact hchecked
  all_goals
    have hkept : TimerKept { (s.dcheck handle.hasCommitted).reset with
        currentReloadableErrorPageInfo := some ⟨handle.url, handle.netErrorCode⟩ } :=
      ⟨fun timer heq => (nomatch heq), fun _ => rfl, hchecked.reset.count, hchecked.reset.delays,
        hchecked.reset.dchecks⟩
  · exact hkept.schedule hpending rfl
  · exact hkept

lemma TimerKept.didFinishNavigation (h : TimerKept s) :
    TimerKept (s.didFinishNavigation net handle) := by
  unfold NetErrorAutoReloader.didFinishNavigation
  simp only
  split_ifs with hframe hcommitted
  · exact h
  · exact (h.erasePending handle.id).didNotCommit _
  · rw [Bool.not_eq_true', Bool.not_eq_false] at hcommitted
    exact (h.erasePending handle.id).didCommit hcommitted

lemma TimerKept.onVisibilityChanged (h : TimerKept s) (visibility : Visibility) :
    TimerKept (s.onVisibilityChanged visibility) := by
  unfold NetErrorAutoReloader.onVisibilityChanged
  simp only
  split_ifs with hhidden hpending
  · exact h.of_timer_none rfl rfl rfl rfl rfl
  all_goals
    rw [Bool.not_eq_true', Bool.not_eq_false] at hhidden
    have hkept : TimerKept { s with visibility := visibility } := by
      refine ⟨fun timer heq => ?_, h.progress, h.count, h.delays, h.dchecks⟩
      obtain ⟨hnone, honline, -, hrest⟩ := h.timer timer heq
      exact ⟨hnone, honline, hhidden, hrest⟩
  · exact hkept.resume hpending
  · exact hkept

lemma TimerKept.onConnectionChanged (h : TimerKept s) (connected : Bool) :
    TimerKept (s.onConnectionChanged connected) := by
  unfold NetErrorAutoReloader.onConnectionChanged
  simp only
  split_ifs with hoffline hpending
  · exact h.of_timer_none rfl rfl rfl rfl rfl
  all_goals
    rw [Bool.not_eq_true', Bool.not_eq_false] at hoffline
    have hkept : TimerKept { s with isOnline := connected } := by
      refine ⟨fun timer heq => ?_, h.progress, h.count, h.delays, h.dchecks⟩
      obtain ⟨hnone, -, hvisible, hrest⟩ := h.timer timer heq
      exact ⟨hnone, hoffline, hvisible, hrest⟩
  · exact hkept.resume hpending
  · exact hkept

lemma pendingNavigations_eq_empty (h : s.noPending = true) : s.pendingNavigations = ∅ := by
  have hkeys : s.pendingNavigations.keys = [] := List.isEmpty_iff.mp h
  exact AList.ext (List.map_eq_nil_iff.mp hkeys)

lemma noPending_eq_false_of_mem {id : ℕ} (h : id ∈ s.pendingNavigations) : s.noPending = false := by
  have hkeys := List.ne_nil_of_mem (AList.mem_keys.mp h)
  simpa [noPending] using hkeys

/-- While a navigation is pending there is no timer. -/
lemma TimerKept.timer_of_mem (h : TimerKept s) {id : ℕ} (hmem : id ∈ s.pendingNavigations) :
    s.nextReloadTimer = none := by
  rw [Option.eq_none_iff_forall_ne_some]
  intro timer heq
  have hnone := (h.timer timer heq).1
  rw [noPending_eq_false_of_mem hmem] at hnone
  cases hnone

lemma TimerKept.shouldSuppressErrorPage (h : TimerKept s)
    (hmem : handle.id ∈ s.pendingNavigations) :
    TimerKept (s.shouldSuppressErrorPage handle).2 := by
  have hchecked := h.dcheck (decide_eq_true hmem)
  unfold NetErrorAutoReloader.shouldSuppressErrorPage
  simp only
  split
  · exact hchecked
  · split_ifs
    · exact hchecked
    · exact hchecked.of_timer_none (h.timer_of_mem hmem) rfl rfl rfl rfl

/-- The timer that fires stays set, and its reload is counted. -/
lemma TimerKept.timerFires (h : TimerKept s) (htimer : s.nextReloadTimer = some timer) :
    TimerKept ({ s with nextReloadTimer := some { timer with isRunning := false } }
      ).reloadMainFrame := by
  obtain ⟨hpending, honline, hvisible, hinfo, hlast⟩ := h.timer timer htimer
  have hfired : StartedLast s.log { timer with isRunning := false } := by
    obtain ⟨before, after, hlog, hreset, hstart, -⟩ := hlast
    exact ⟨before, after, hlog, hreset, hstart, fun hrunning => (nomatch hrunning)⟩
  have hkept : TimerKept { s with nextReloadTimer := some { timer with isRunning := false } } := by
    refine ⟨fun timer' heq => ?_, h.progress, h.count, h.delays, h.dchecks⟩
    obtain rfl := Option.some.inj heq
    exact ⟨hpending, honline, hvisible, hinfo, hfired⟩
  have hchecked := hkept.dcheck hinfo
  unfold reloadMainFrame
  simp only
  split_ifs
  · exact hchecked
  · refine ⟨fun timer' heq => ?_, fun _ => hinfo, ?_, ?_, ?_⟩
    · obtain ⟨-, -, -, -, hlast'⟩ := hchecked.timer timer' heq
      obtain rfl := Option.some.inj heq
      exact ⟨hpending, honline, hvisible, hinfo,
        hlast'.concat (by simp) (by simp) fun hrunning => (nomatch hrunning)⟩
    · refine Eq.trans ?_ (reloadsSinceReset_concat _ .reload).symm
      exact congrArg (· + 1) hchecked.count
    · exact Always.delayInTable_concat hchecked.delays (by simp)
    · simpa using hchecked.dchecks

/-! ## Runs -/

lemma TimerKept.step (h : TimerKept s) {label : Label} (hstep : s.step net label = some s') :
    TimerKept s' := by
  cases label with
  | didStartNavigation handle =>
      obtain rfl := Option.some.inj hstep
      exact h.didStartNavigation
  | didFinishNavigation handle =>
      obtain rfl := Option.some.inj hstep
      exact h.didFinishNavigation
  | navigationStopped =>
      obtain rfl := Option.some.inj hstep
      exact h.reset
  | visibilityChanged visibility =>
      obtain rfl := Option.some.inj hstep
      exact h.onVisibilityChanged visibility
  | connectionChanged connected =>
      obtain rfl := Option.some.inj hstep
      exact h.onConnectionChanged connected
  | suppress handle =>
      simp only [NetErrorAutoReloader.step] at hstep
      split_ifs at hstep with hmem
      obtain rfl := Option.some.inj hstep
      exact h.shouldSuppressErrorPage hmem
  | timerFires =>
      simp only [NetErrorAutoReloader.step] at hstep
      cases htimer : s.nextReloadTimer with
      | none =>
          rw [htimer] at hstep
          cases hstep
      | some timer =>
          rw [htimer] at hstep
          simp only at hstep
          split_ifs at hstep
          obtain rfl := Option.some.inj hstep
          exact h.timerFires htimer

lemma timerKept_of_reachable (h : Reachable net s) : TimerKept s := by
  obtain ⟨visibility, hrun⟩ := h
  exact invariant_of_run (fun _ _ h ⟨_, hstep⟩ => h.step hstep) hrun (timerKept_init visibility)

/-- **The timer is set only when a reload may be scheduled.**  In every state that is reached:

* if the timer is set, no navigation is pending, the reloader is online, the tab is visible and an
  error page can be reloaded; the timer was started last, and with the entry of the table for the
  reloads since the last reset, none of which it has asked for itself before it fires;
* a reload is in progress only of an error page that can be reloaded;
* no assertion has failed. -/
theorem timer_kept (h : Reachable net s) :
    (∀ timer, s.nextReloadTimer = some timer →
      s.pendingNavigations = ∅ ∧ s.isOnline = true ∧ s.isWebContentsVisible = true ∧
        s.currentReloadableErrorPageInfo.isSome = true ∧
        (∃ before after, s.log = before ++ .scheduled timer.delay :: after ∧
          delays[min (reloadsSinceReset before) (delays.length - 1)]? = some timer.delay ∧
            .reset ∉ after ∧ ∀ delay, .scheduled delay ∉ after) ∧
        (timer.isRunning = true →
          delays[min (reloadsSinceReset s.log) (delays.length - 1)]? = some timer.delay)) ∧
      (s.isAutoReloadInProgress = true → s.currentReloadableErrorPageInfo.isSome = true) ∧
      .dcheck false ∉ s.log := by
  have hkept := timerKept_of_reachable h
  refine ⟨fun timer htimer => ?_, hkept.progress, hkept.dchecks⟩
  obtain ⟨hpending, honline, hvisible, hinfo, before, after, hlog, hreset, hstart, hreload⟩ :=
    hkept.timer timer htimer
  have hdelay := hkept.delays before _ after hlog timer.delay rfl
  refine ⟨pendingNavigations_eq_empty hpending, honline, hvisible, hinfo,
    ⟨before, after, hlog, hdelay, hreset, hstart⟩, fun hrunning => ?_⟩
  have hcount : reloadsSinceReset s.log = reloadsSinceReset before := by
    rw [hlog]
    exact reloadsSinceReset_append (by simpa using hreset) (by simpa using hreload hrunning)
  rw [hcount, hdelay]

/-- A network stack without the classes of errors. -/
def plainErrors : NetErrorClasses := ⟨fun _ => false, fun _ => false, fun _ => false⟩

/-- A navigation to an error page. -/
def failedNavigation (id : ℕ) (reloadType : ReloadType) : NavigationHandle :=
  { id, hasCommitted := true, isErrorPage := true, netErrorCode := .other 0, reloadType }

/-- A page that fails to load, and fails again on each of its reloads. -/
def failures (reloads : ℕ) : List Label :=
  [.didStartNavigation (failedNavigation 0 .none),
    .didFinishNavigation (failedNavigation 0 .none)] ++
    (List.range reloads).flatMap fun n => [.timerFires,
      .didStartNavigation (failedNavigation (n + 1) .normal),
      .didFinishNavigation (failedNavigation (n + 1) .normal)]

/-- The page is reloaded after one second, after five when it fails again, and from the seventh
failure on after half an hour. -/
theorem timer_kept_failures : ∃ first second eighth : NetErrorAutoReloader,
    (first.nextReloadTimer = some ⟨1, true⟩ ∧ reloadsSinceReset first.log = 0 ∧
      delays[min (reloadsSinceReset first.log) (delays.length - 1)]? = some 1) ∧
    (second.nextReloadTimer = some ⟨5, true⟩ ∧ reloadsSinceReset second.log = 1 ∧
      delays[min (reloadsSinceReset second.log) (delays.length - 1)]? = some 5) ∧
    (eighth.nextReloadTimer = some ⟨1800, true⟩ ∧ reloadsSinceReset eighth.log = 7 ∧
      delays[min (reloadsSinceReset eighth.log) (delays.length - 1)]? = some 1800) := by
  have hfirst : Reachable plainErrors _ := ⟨.visible, run_of_foldlM (failures 0) rfl⟩
  have hsecond : Reachable plainErrors _ := ⟨.visible, run_of_foldlM (failures 1) rfl⟩
  have height : Reachable plainErrors _ := ⟨.visible, run_of_foldlM (failures 7) rfl⟩
  exact ⟨_, _, _,
    ⟨rfl, rfl, ((timer_kept hfirst).1 ⟨1, true⟩ rfl).2.2.2.2.2 rfl⟩,
    ⟨rfl, rfl, ((timer_kept hsecond).1 ⟨5, true⟩ rfl).2.2.2.2.2 rfl⟩,
    rfl, rfl, ((timer_kept height).1 ⟨1800, true⟩ rfl).2.2.2.2.2 rfl⟩

end NetErrorAutoReloader

end TorOnion
