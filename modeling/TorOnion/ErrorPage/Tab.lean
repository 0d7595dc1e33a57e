import TorOnion.ErrorPage.FinishOrder

/-!
# A tab that reloads its error page: `error_loader.cpp`

The reloader in its tab.  A navigation of the primary main frame registers its throttles as it
starts (`MaybeCreateAndAddNavigationThrottle`); when its request fails,
`IgnoreDuplicateErrorThrottle` asks the reloader once whether the error page is shown already, and
cancels the navigation then; else the error page commits.  A navigation may also commit a page, or
end without committing for other reasons.  What `ReloadMainFrame` asks for is a navigation to the
page that is shown.  The navigations of other frames are left out: every handler returns at once.

The reloader is created for the first navigation as it registers its throttles, which is after it
has started: that navigation is in flight and not in `pending_navigations_`.

`tab_keeps_retrying` says of every state of the tab that the throttle only ever asks about pending
navigations (the runs of the tab are runs of the reloader, as `AutoReloader.lean` has them), that
what it cancels has the error that is shown, and that an error page which can be reloaded waits for
a running timer, unless the last navigation to end was neither committed nor cancelled.
-/

namespace TorOnion

/-! ## The throttle -/

/-- `ThrottleAction`, as far as it is returned here. -/
inductive ThrottleAction
  | proceed
  | cancel
  deriving DecidableEq

/-- A navigation in flight.  `throttled` says that it has an `IgnoreDuplicateErrorThrottle` whose
`should_suppress_` has not been run, and `cancelled` that the throttle has cancelled it. -/
structure Navigation where
  handle : NavigationHandle
  throttled : Bool := false
  cancelled : Bool := false
  deriving DecidableEq

namespace NetErrorAutoReloader

/-- `MaybeCreateAndAdd`, behind its assertion: whether the throttle is added. -/
def maybeCreateAndAdd (handle : NavigationHandle) (s : NetErrorAutoReloader) : Bool :=
  match s.currentReloadableErrorPageInfo with
  | none => false
  | some info =>
      if info.url ≠ handle.url ∨ s.isAutoReloadInProgress = false then false else true

/-- `MaybeCreateAndAddNavigationThrottle`, when the tab has its reloader. -/
def maybeCreateAndAddNavigationThrottle (handle : NavigationHandle) (s : NetErrorAutoReloader) :
    Bool :=
  if !handle.isInPrimaryMainFrame then false else s.maybeCreateAndAdd handle

/-- `WillFailRequest` of the throttle of a navigation, if it has one, with the handle as the
request has failed. -/
def willFailRequest (navigation : Navigation) (handle : NavigationHandle)
    (s : NetErrorAutoReloader) : ThrottleAction × NetErrorAutoReloader :=
  if navigation.throttled then
    let (shouldSuppress, s) := s.shouldSuppressErrorPage handle
    (if shouldSuppress then .cancel else .proceed, s)
  else (.proceed, s)

end NetErrorAutoReloader

/-! ## The tab -/

/-- How a navigation ended. -/
inductive NavigationEnd
  | committed
  | cancelled
  | abandoned
  deriving DecidableEq

/-- A tab: its reloader, the navigations of the primary main frame that are in flight, the
navigation that committed the page that is shown, and how the last navigation ended. -/
structure Tab where
  reloader : NetErrorAutoReloader
  navigations : List Navigation
  page : Option NavigationHandle := none
  lastEnd : Option NavigationEnd := none

namespace Tab

/-- The tab as its reloader is created for a first navigation. -/
def create (visibility : Visibility) (first : NavigationHandle) : Tab where
  reloader := { visibility := visibility }
  navigations := [{ handle := first }]

def find (id : ℕ) (t : Tab) : Option Navigation :=
  t.navigations.find? (·.handle.id == id)

/-- A navigation starts, and registers its throttles. -/
def start (handle : NavigationHandle) (t : Tab) : Tab :=
  let reloader := t.reloader.didStartNavigation handle
  { t with
    reloader := reloader
    navigations := t.navigations ++
      [{ handle := handle, throttled := reloader.maybeCreateAndAddNavigationThrottle handle }] }

/-- A navigation ends, with its handle as it is then. -/
def finish (net : NetErrorClasses) (handle : NavigationHandle) (ended : NavigationEnd)
    (t : Tab) : Tab where
  reloader := t.reloader.didFinishNavigation net handle
  navigations := t.navigations.filter (·.handle.id != handle.id)
  page := if handle.hasCommitted then some handle else t.page
  lastEnd := some ended

/-- The request of a navigation fails: it is cancelled, or commits an error page. -/
def fail (net : NetErrorClasses) (navigation : Navigation) (error : NetError) (secure : Bool)
    (t : Tab) : Tab :=
  let handle := { navigation.handle with
    netErrorCode := error, isSecureNetworkError := secure }
  let (action, reloader) := t.reloader.willFailRequest navigation handle
  match action with
  | .cancel =>
      { t with
        reloader := reloader
        navigations := t.navigations.map fun other =>
          if other.handle.id = navigation.handle.id then
            { other with throttled := false, cancelled := true }
          else other }
  | .proceed =>
      { t with reloader := reloader }.finish net
        { handle with hasCommitted := true, isErrorPage := true } .committed

/-- The reload of a page. -/
def reloadOf (id : ℕ) (page : NavigationHandle) : NavigationHandle :=
  { page with
    id := id, isInPrimaryMainFrame := true, hasCommitted := false, isErrorPage := false
    netErrorCode := .ok, reloadType := .normal, isSecureNetworkError := false }

/-- What happens in a tab. -/
inductive Label
  | start (handle : NavigationHandle)
  | fail (id : ℕ) (error : NetError) (secure : Bool)
  | commit (id : ℕ)
  | leave (id : ℕ)
  | navigationStopped
  | visibilityChanged (visibility : Visibility)
  | connectionChanged (connected : Bool)
  | timerFires (id : ℕ)

/-- One step.  The handles in flight are distinct.  A cancelled navigation does nothing but end.
When the timer fires, the reload is the navigation with the handle that is given. -/
def step (net : NetErrorClasses) (t : Tab) : Label → Option Tab
  | .start handle =>
      if handle.isInPrimaryMainFrame && !handle.hasCommitted && (t.find handle.id).isNone then
        some (t.start handle)
      else none
  | .fail id error secure => do
      let navigation ← t.find id
      if navigation.cancelled || error == .ok then none
      else some (t.fail net navigation error secure)
  | .commit id => do
      let navigation ← t.find id
      if navigation.cancelled then none
      else some (t.finish net
        { navigation.handle with hasCommitted := true, isErrorPage := false, netErrorCode := .ok }
        .committed)
  | .leave id => do
      let navigation ← t.find id
      some (t.finish net navigation.handle
        (if navigation.cancelled then .cancelled else .abandoned))
  | .navigationStopped => some { t with reloader := t.reloader.navigationStopped }
  | .visibilityChanged visibility =>
      some { t with reloader := t.reloader.onVisibilityChanged visibility }
  | .connectionChanged connected =>
      some { t with reloader := t.reloader.onConnectionChanged connected }
  | .timerFires id => do
      let reloader ← t.reloader.step net .timerFires
      -- `Reload`, which `ReloadMainFrame` calls last
      if !t.reloader.isOnline || !t.reloader.isWebContentsVisible then
        some { t with reloader := reloader }
      else
        let page ← t.page
        if (t.find id).isNone then
          some ({ t with reloader := reloader }.start (reloadOf id page))
        else none

/-- The tabs that runs arrive at. -/
def Reachable (net : NetErrorClasses) (t : Tab) : Prop :=
  ∃ visibility first, first.isInPrimaryMainFrame = true ∧ first.hasCommitted = false ∧
    Relation.ReflTransGen (fun t t' => ∃ label, step net t label = some t')
      (create visibility first) t

end Tab

/-! ## What the handlers leave -/

namespace NetErrorAutoReloader

variable {net : NetErrorClasses} {s : NetErrorAutoReloader} {handle : NavigationHandle}

/-- A timer that is set has not fired. -/
def Armed (s : NetErrorAutoReloader) : Prop :=
  ∀ timer, s.nextReloadTimer = some timer → timer.isRunning = true

/-- An error page that may be reloaded now waits for the timer. -/
def Retrying (s : NetErrorAutoReloader) : Prop :=
  s.currentReloadableErrorPageInfo.isSome = true → s.isOnline = true →
    s.isWebContentsVisible = true → s.nextReloadTimer.isSome = true

lemma Retrying.of_info (h : s.currentReloadableErrorPageInfo = none) : Retrying s := by
  intro hinfo
  rw [h] at hinfo
  cases hinfo

lemma Armed.of_timer (h : s.nextReloadTimer = none) : Armed s := by
  intro timer htimer
  rw [h] at htimer
  cases htimer

lemma scheduleNextAutoReload_pending :
    s.scheduleNextAutoReload.pendingNavigations = s.pendingNavigations := by
  unfold scheduleNextAutoReload
  simp only
  split_ifs <;> rfl

lemma scheduleNextAutoReload_info :
    s.scheduleNextAutoReload.currentReloadableErrorPageInfo =
      s.currentReloadableErrorPageInfo := by
  unfold scheduleNextAutoReload
  simp only
  split_ifs <;> rfl

lemma Armed.schedule (h : Armed s) : Armed s.scheduleNextAutoReload := by
  unfold scheduleNextAutoReload
  simp only
  split_ifs
  · exact h
  · intro timer htimer
    obtain rfl := Option.some.inj htimer
    rfl

/-- After it was asked for, a reload is scheduled wherever it may be. -/
lemma Retrying.schedule : Retrying s.scheduleNextAutoReload := by
  unfold scheduleNextAutoReload
  simp only
  split_ifs with hoff
  · intro _ honline hvisible
    rw [honline, hvisible] at hoff
    cases hoff
  · intro _ _ _
    rfl

lemma Armed.resume (h : Armed s) : Armed s.resumeAutoReloadIfPaused := by
  unfold resumeAutoReloadIfPaused
  split_ifs
  · exact h.schedule
  · exact h

lemma Retrying.resume : Retrying s.resumeAutoReloadIfPaused := by
  unfold resumeAutoReloadIfPaused
  split_ifs with hcond
  · exact Retrying.schedule
  · intro hinfo _ _
    rw [hinfo, Bool.true_and, Option.isNone_iff_eq_none, ← ne_eq,
      Option.ne_none_iff_isSome] at hcond
    exact hcond

/-- Resuming leaves the navigations and the error page alone. -/
lemma resumeAutoReloadIfPaused_frame :
    s.resumeAutoReloadIfPaused.pendingNavigations = s.pendingNavigations ∧
      s.resumeAutoReloadIfPaused.currentReloadableErrorPageInfo =
        s.currentReloadableErrorPageInfo := by
  unfold resumeAutoReloadIfPaused
  split_ifs
  · exact ⟨scheduleNextAutoReload_pending, scheduleNextAutoReload_info⟩
  · exact ⟨rfl, rfl⟩

/-! ## The two observers -/

/-- What `OnVisibilityChanged` and `OnConnectionChanged` do once their field is set: `up` says
whether the page is visible, or the connection there. -/
def pauseOrResume (up : Bool) (s : NetErrorAutoReloader) : NetErrorAutoReloader :=
  if !up then s.pauseAutoReloadTimerIfRunning
  else if s.noPending then s.resumeAutoReloadIfPaused
  else s

lemma onVisibilityChanged_eq (visibility : Visibility) : s.onVisibilityChanged visibility =
    pauseOrResume (visibility != .hidden) { s with visibility := visibility } := rfl

lemma onConnectionChanged_eq (connected : Bool) : s.onConnectionChanged connected =
    pauseOrResume connected { s with isOnline := connected } := rfl

lemma Armed.pauseOrResume (h : Armed s) (up : Bool) : Armed (s.pauseOrResume up) := by
  unfold NetErrorAutoReloader.pauseOrResume
  split_ifs
  · exact Armed.of_timer rfl
  · exact h.resume
  · exact h

/-- With nothing pending, the observer of a page that is up again resumes the reloads. -/
lemma Retrying.pauseOrResume {up : Bool} (hpending : s.noPending = true)
    (hup : s.isOnline = true → s.isWebContentsVisible = true → up = true) :
    Retrying (s.pauseOrResume up) := by
  unfold NetErrorAutoReloader.pauseOrResume
  split_ifs with hdown
  · intro _ honline hvisible
    rw [Bool.not_eq_true'] at hdown
    exact absurd (hdown.symm.trans (hup honline hvisible)) Bool.false_ne_true
  · exact Retrying.resume

lemma pauseOrResume_frame (up : Bool) :
    (s.pauseOrResume up).pendingNavigations = s.pendingNavigations ∧
      (s.pauseOrResume up).currentReloadableErrorPageInfo = s.currentReloadableErrorPageInfo := by
  unfold NetErrorAutoReloader.pauseOrResume
  split_ifs
  · exact ⟨rfl, rfl⟩
  · exact resumeAutoReloadIfPaused_frame
  · exact ⟨rfl, rfl⟩

/-! ## Navigations that end -/

lemma didNotCommit_frame (suppressed : Bool) :
    (s.didNotCommit suppressed).pendingNavigations = s.pendingNavigations ∧
      (s.didNotCommit suppressed).currentReloadableErrorPageInfo =
        s.currentReloadableErrorPageInfo := by
  unfold NetErrorAutoReloader.didNotCommit
  simp only
  split_ifs
  · exact ⟨rfl, rfl⟩
  · exact ⟨scheduleNextAutoReload_pending, scheduleNextAutoReload_info⟩
  · exact ⟨rfl, rfl⟩

lemma Armed.didNotCommit (h : Armed s) (suppressed : Bool) :
    Armed (s.didNotCommit suppressed) := by
  unfold NetErrorAutoReloader.didNotCommit
  simp only
  split_ifs
  · exact h
  · apply Armed.schedule
    exact h
  · exact h

lemma Retrying.didNotCommit (hpending : s.noPending = true) : Retrying (s.didNotCommit true) := by
  unfold NetErrorAutoReloader.didNotCommit
  simp only
  split_ifs with hearly
  · rw [hpending, Bool.not_true, Bool.false_or, Option.isNone_iff_eq_none] at hearly
    exact Retrying.of_info hearly
  · exact Retrying.schedule

lemma didCommit_pending : (s.didCommit net handle).pendingNavigations = s.pendingNavigations := by
  unfold NetErrorAutoReloader.didCommit
  simp only
  split_ifs
  · rfl
  · exact scheduleNextAutoReload_pending
  · rfl
  · exact scheduleNextAutoReload_pending
  · rfl

/-- After a commit the error page is the one that committed, if it may be reloaded. -/
lemma didCommit_info {info : ErrorPageInfo}
    (h : (s.didCommit net handle).currentReloadableErrorPageInfo = some info) :
    shouldAutoReload net handle = true ∧ handle.netErrorCode = info.error := by
  unfold NetErrorAutoReloader.didCommit at h
  simp only at h
  split_ifs at h with hreload hsame hpending hpending
  · cases h
  all_goals
    rw [Bool.not_eq_true', Bool.not_eq_false] at hreload
    refine ⟨hreload, ?_⟩
  · rw [scheduleNextAutoReload_info] at h
    have herror := hsame.2
    rw [h] at herror
    exact (Option.some.inj herror).symm
  · have herror := hsame.2
    rw [h] at herror
    exact (Option.some.inj herror).symm
  · rw [scheduleNextAutoReload_info] at h
    obtain rfl := Option.some.inj h
    rfl
  · obtain rfl := Option.some.inj h
    rfl

lemma Armed.didCommit (h : Armed s) : Armed (s.didCommit net handle) := by
  unfold NetErrorAutoReloader.didCommit
  simp only
  split_ifs
  · exact Armed.of_timer rfl
  · apply Armed.schedule
    exact h
  · exact h
  · apply Armed.schedule
    exact Armed.of_timer rfl
  · exact Armed.of_timer rfl

lemma Retrying.didCommit (hpending : s.noPending = true) :
    Retrying (s.didCommit net handle) := by
  unfold NetErrorAutoReloader.didCommit
  simp only
  split_ifs with hreload hsame hnone hnone
  · exact Retrying.of_info rfl
  · exact Retrying.schedule
  · exact absurd hpending hnone
  · exact Retrying.schedule
  · exact absurd hpending hnone

/-- A navigation of the primary main frame ends. -/
lemma didFinishNavigation_eq (hframe : handle.isInPrimaryMainFrame = true) :
    s.didFinishNavigation net handle =
      if handle.hasCommitted then (s.erasePending handle.id).didCommit net handle
      else (s.erasePending handle.id).didNotCommit
        (s.pendingNavigations.lookup handle.id == some true) := by
  cases hcommitted : handle.hasCommitted with
  | false => simp [didFinishNavigation, hframe, hcommitted]
  | true => simp [didFinishNavigation, hframe, hcommitted]

lemma didFinishNavigation_pending (hframe : handle.isInPrimaryMainFrame = true) :
    (s.didFinishNavigation net handle).pendingNavigations =
      s.pendingNavigations.erase handle.id := by
  rw [didFinishNavigation_eq hframe]
  split_ifs
  · exact didCommit_pending
  · exact (didNotCommit_frame _).1

lemma Armed.didFinishNavigation (h : Armed s) (hframe : handle.isInPrimaryMainFrame = true) :
    Armed (s.didFinishNavigation net handle) := by
  rw [didFinishNavigation_eq hframe]
  split_ifs
  · apply Armed.didCommit
    exact h
  · apply Armed.didNotCommit
    exact h

/-- The last navigation to end is followed by a reload when it has committed or was suppressed. -/
lemma Retrying.didFinishNavigation (hframe : handle.isInPrimaryMainFrame = true)
    (hpending : (s.erasePending handle.id).noPending = true)
    (hended : handle.hasCommitted = true ∨ s.pendingNavigations.lookup handle.id = some true) :
    Retrying (s.didFinishNavigation net handle) := by
  rw [didFinishNavigation_eq hframe]
  split_ifs with hcommitted
  · exact Retrying.didCommit hpending
  · have hsuppressed := hended.resolve_left hcommitted
    rw [hsuppressed, beq_self_eq_true]
    exact Retrying.didNotCommit hpending

/-! ## Navigations that start or fail -/

lemma didStartNavigation_eq (hframe : handle.isInPrimaryMainFrame = true) :
    s.didStartNavigation handle =
      s.pauseAutoReloadTimerIfRunning.emplacePending handle.id := by
  rw [didStartNavigation, hframe]
  rfl

lemma didStartNavigation_pending (hframe : handle.isInPrimaryMainFrame = true)
    (hfresh : handle.id ∉ s.pendingNavigations) :
    (s.didStartNavigation handle).pendingNavigations =
      s.pendingNavigations.insert handle.id false := by
  rw [didStartNavigation_eq hframe, emplacePending, if_neg]
  · rfl
  · exact hfresh

lemma didStartNavigation_frame (hframe : handle.isInPrimaryMainFrame = true) :
    (s.didStartNavigation handle).nextReloadTimer = none ∧
      (s.didStartNavigation handle).currentReloadableErrorPageInfo =
        s.currentReloadableErrorPageInfo := by
  rw [didStartNavigation_eq hframe, emplacePending]
  split_ifs <;> exact ⟨rfl, rfl⟩

/-- What `ShouldSuppressErrorPage` answers and leaves. -/
lemma shouldSuppressErrorPage_cases (handle : NavigationHandle) (s : NetErrorAutoReloader) :
    ((s.shouldSuppressErrorPage handle).1 = false ∧
        (s.shouldSuppressErrorPage handle).2 =
          s.dcheck (decide (handle.id ∈ s.pendingNavigations))) ∨
      (s.shouldSuppressErrorPage handle).1 = true ∧
        (∃ info, s.currentReloadableErrorPageInfo = some info ∧ info.url = handle.url ∧
          info.error = handle.netErrorCode) ∧
        (s.shouldSuppressErrorPage handle).2 =
          { s.dcheck (decide (handle.id ∈ s.pendingNavigations)) with
            pendingNavigations := s.pendingNavigations.insert handle.id true } := by
  cases hinfo : s.currentReloadableErrorPageInfo with
  | none =>
      refine .inl ⟨?_, ?_⟩ <;> simp [shouldSuppressErrorPage, dcheck, hinfo]
  | some info =>
      by_cases hother : info.url ≠ handle.url ∨ info.error ≠ handle.netErrorCode
      · refine .inl ⟨?_, ?_⟩ <;> simp [shouldSuppressErrorPage, dcheck, hinfo, hother]
      · have hsame := not_or.mp hother
        rw [not_not, not_not] at hsame
        refine .inr ⟨?_, ⟨info, rfl, hsame⟩, ?_⟩ <;>
          simp [shouldSuppressErrorPage, dcheck, hinfo, hsame]

/-! ## The timer -/

/-- The reloader when its timer has fired. -/
def fired (timer : OneShotTimer) (s : NetErrorAutoReloader) : NetErrorAutoReloader :=
  { s with nextReloadTimer := some { timer with isRunning := false } }.reloadMainFrame

lemma fired_frame (timer : OneShotTimer) (s : NetErrorAutoReloader) :
    (s.fired timer).pendingNavigations = s.pendingNavigations ∧
      (s.fired timer).currentReloadableErrorPageInfo = s.currentReloadableErrorPageInfo := by
  unfold fired reloadMainFrame
  simp only
  split_ifs <;> exact ⟨rfl, rfl⟩

end NetErrorAutoReloader

/-! ## The tab's invariant -/

namespace Tab

open NetErrorAutoReloader (Armed Retrying reloadsSinceReset)

variable {net : NetErrorClasses} {t t' : Tab} {handle : NavigationHandle} {id : ℕ}

/-- The reloader is one that its own runs arrive at, and it knows the navigations in flight. -/
structure Sound (net : NetErrorClasses) (t : Tab) : Prop where
  reloader : NetErrorAutoReloader.Reachable net t.reloader
  handles : ∀ navigation ∈ t.navigations,
    navigation.handle.isInPrimaryMainFrame = true ∧ navigation.handle.hasCommitted = false
  distinct : (t.navigations.map (·.handle.id)).Nodup
  pending : ∀ id ∈ t.reloader.pendingNavigations, id ∈ t.navigations.map (·.handle.id)
  throttled : ∀ navigation ∈ t.navigations, navigation.throttled = true →
    navigation.handle.id ∈ t.reloader.pendingNavigations
  cancelled : ∀ navigation ∈ t.navigations, navigation.cancelled = true →
    t.reloader.pendingNavigations.lookup navigation.handle.id = some true
  page : ∀ info, t.reloader.currentReloadableErrorPageInfo = some info →
    ∃ handle, t.page = some handle ∧ shouldAutoReload net handle = true ∧
      handle.netErrorCode = info.error

/-- The invariant. -/
structure Kept (net : NetErrorClasses) (t : Tab) : Prop extends Sound net t where
  armed : Armed t.reloader
  retrying : t.navigations = [] → Retrying t.reloader ∨ t.lastEnd = some .abandoned

lemma kept_create (visibility : Visibility) (hframe : handle.isInPrimaryMainFrame = true)
    (hcommitted : handle.hasCommitted = false) : Kept net (create visibility handle) := by
  refine ⟨⟨⟨visibility, .refl⟩, ?_, by simp [create], ?_, ?_, ?_, ?_⟩, Armed.of_timer rfl, ?_⟩
  · intro navigation hmem
    obtain rfl := List.mem_singleton.mp hmem
    exact ⟨hframe, hcommitted⟩
  · intro id hmem
    exact absurd hmem (AList.notMem_empty id)
  · intro navigation hmem hthrottled
    obtain rfl := List.mem_singleton.mp hmem
    cases hthrottled
  · intro navigation hmem hcancelled
    obtain rfl := List.mem_singleton.mp hmem
    cases hcancelled
  · intro info hinfo
    cases hinfo
  · intro hnil
    cases hnil

lemma find_eq_none : t.find id = none ↔ id ∉ t.navigations.map (·.handle.id) := by
  simp [find, List.find?_eq_none, List.mem_map]

lemma mem_of_find {navigation : Navigation} (h : t.find id = some navigation) :
    navigation ∈ t.navigations ∧ navigation.handle.id = id := by
  refine ⟨List.mem_of_find?_eq_some h, ?_⟩
  simpa using List.find?_some h

/-- Steps of the reloader itself. -/
lemma reachable_step {s s' : NetErrorAutoReloader} (h : NetErrorAutoReloader.Reachable net s)
    (label : NetErrorAutoReloader.Label) (hstep : s.step net label = some s') :
    NetErrorAutoReloader.Reachable net s' := by
  obtain ⟨visibility, hrun⟩ := h
  exact ⟨visibility, hrun.tail ⟨label, hstep⟩⟩

/-! ## A navigation starts -/

/-- **A navigation starts**, or a reload when the timer has fired. -/
lemma Sound.start (h : Sound net t) (hframe : handle.isInPrimaryMainFrame = true)
    (hcommitted : handle.hasCommitted = false) (hfresh : t.find handle.id = none) :
    Kept net (t.start handle) := by
  rw [find_eq_none] at hfresh
  have hnew : handle.id ∉ t.reloader.pendingNavigations := fun hmem =>
    hfresh (h.pending _ hmem)
  have hpending := NetErrorAutoReloader.didStartNavigation_pending hframe hnew
  obtain ⟨htimer, hinfo⟩ := NetErrorAutoReloader.didStartNavigation_frame
    (s := t.reloader) hframe
  have hother : ∀ navigation ∈ t.navigations, navigation.handle.id ≠ handle.id :=
    fun navigation hmem heq => hfresh (heq ▸ List.mem_map_of_mem hmem)
  refine ⟨⟨reachable_step h.reloader (.didStartNavigation handle) rfl, ?_, ?_, ?_, ?_,
    ?_, ?_⟩, Armed.of_timer htimer, ?_⟩
  · intro navigation hmem
    rcases List.mem_append.mp hmem with hmem | hmem
    · exact h.handles navigation hmem
    · obtain rfl := List.mem_singleton.mp hmem
      exact ⟨hframe, hcommitted⟩
  · simp only [Tab.start, List.map_append, List.map_cons, List.map_nil]
    exact List.nodup_append.mpr ⟨h.distinct, List.nodup_singleton _, fun a ha b hb =>
      fun heq => hfresh (List.mem_singleton.mp hb ▸ heq ▸ ha)⟩
  · intro id hmem
    simp only [Tab.start, hpending, AList.mem_insert] at hmem
    simp only [Tab.start, List.map_append, List.mem_append, List.map_cons, List.map_nil,
      List.mem_singleton]
    exact hmem.symm.imp (h.pending id) fun heq => heq
  · intro navigation hmem hthrottled
    simp only [Tab.start, hpending, AList.mem_insert]
    rcases List.mem_append.mp hmem with hmem | hmem
    · exact .inr (h.throttled navigation hmem hthrottled)
    · obtain rfl := List.mem_singleton.mp hmem
      exact .inl rfl
  · intro navigation hmem hcancelled
    simp only [Tab.start, hpending]
    rcases List.mem_append.mp hmem with hmem | hmem
    · rw [AList.lookup_insert_ne (hother navigation hmem)]
      exact h.cancelled navigation hmem hcancelled
    · obtain rfl := List.mem_singleton.mp hmem
      cases hcancelled
  · intro info heq
    exact h.page info (hinfo ▸ heq)
  · intro hnil
    simp [Tab.start] at hnil

/-! ## A navigation ends -/

/-- **A navigation ends.** -/
lemma Kept.finish (h : Kept net t) (hframe : handle.isInPrimaryMainFrame = true)
    {ended : NavigationEnd}
    (hended : handle.hasCommitted = true ∨
      t.reloader.pendingNavigations.lookup handle.id = some true ∨ ended = .abandoned) :
    Kept net (t.finish net handle ended) := by
  have hpending : (t.reloader.didFinishNavigation net handle).pendingNavigations =
      t.reloader.pendingNavigations.erase handle.id :=
    NetErrorAutoReloader.didFinishNavigation_pending hframe
  have hstays : ∀ navigation ∈ (t.finish net handle ended).navigations,
      navigation ∈ t.navigations ∧ navigation.handle.id ≠ handle.id := by
    intro navigation hmem
    simpa [Tab.finish, List.mem_filter] using hmem
  refine ⟨⟨reachable_step h.reloader (.didFinishNavigation handle) rfl, ?_, ?_, ?_, ?_,
    ?_, ?_⟩, h.armed.didFinishNavigation hframe, ?_⟩
  · intro navigation hmem
    exact h.handles navigation (hstays navigation hmem).1
  · exact h.distinct.sublist (List.filter_sublist.map _)
  · intro id hid
    simp only [Tab.finish, hpending, AList.mem_erase] at hid
    obtain ⟨navigation, hnavigation, rfl⟩ := List.mem_map.mp (h.pending id hid.2)
    refine List.mem_map_of_mem (List.mem_filter.mpr ⟨hnavigation, ?_⟩)
    simpa using hid.1
  · intro navigation hmem hthrottled
    obtain ⟨hold, hne⟩ := hstays navigation hmem
    simp only [Tab.finish, hpending, AList.mem_erase]
    exact ⟨hne, h.throttled navigation hold hthrottled⟩
  · intro navigation hmem hcancelled
    obtain ⟨hold, hne⟩ := hstays navigation hmem
    simp only [Tab.finish, hpending]
    rw [AList.lookup_erase_ne hne]
    exact h.cancelled navigation hold hcancelled
  · intro info hinfo
    simp only [Tab.finish, NetErrorAutoReloader.didFinishNavigation_eq hframe] at hinfo ⊢
    split_ifs at hinfo ⊢ with hcommitted
    · exact ⟨handle, rfl, NetErrorAutoReloader.didCommit_info hinfo⟩
    · rw [(NetErrorAutoReloader.didNotCommit_frame _).2] at hinfo
      exact h.page info hinfo
  · intro hnil
    have hnone : (t.reloader.erasePending handle.id).noPending = true := by
      rw [NetErrorAutoReloader.noPending, List.isEmpty_iff, List.eq_nil_iff_forall_not_mem]
      intro id hid
      rw [← AList.mem_keys, NetErrorAutoReloader.erasePending, AList.mem_erase] at hid
      obtain ⟨navigation, hnavigation, rfl⟩ := List.mem_map.mp (h.pending id hid.2)
      have hstill : navigation ∈ (t.finish net handle ended).navigations :=
        List.mem_filter.mpr ⟨hnavigation, by simpa using hid.1⟩
      rw [hnil] at hstill
      cases hstill
    rcases hended with hcommitted | hsuppressed | rfl
    · exact .inl (Retrying.didFinishNavigation hframe hnone (.inl hcommitted))
    · exact .inl (Retrying.didFinishNavigation hframe hnone (.inr hsuppressed))
    · exact .inr rfl

/-! ## A request fails -/

/-- The reloader changes, and the navigations in flight do not. -/
lemma Kept.setReloader (h : Kept net t) {s : NetErrorAutoReloader}
    (hreach : NetErrorAutoReloader.Reachable net s)
    (hpending : s.pendingNavigations = t.reloader.pendingNavigations)
    (hinfo : ∀ info, s.currentReloadableErrorPageInfo = some info →
      t.reloader.currentReloadableErrorPageInfo = some info)
    (harmed : Armed s)
    (hretrying : t.navigations = [] → Retrying s ∨ t.lastEnd = some .abandoned) :
    Kept net { t with reloader := s } := by
  refine ⟨⟨hreach, h.handles, h.distinct, ?_, ?_, ?_, fun info heq => h.page info (hinfo info heq)⟩,
    harmed, hretrying⟩
  · simp only [hpending]
    exact h.pending
  · simp only [hpending]
    exact h.throttled
  · simp only [hpending]
    exact h.cancelled

/-- The throttle cancels a navigation. -/
lemma Kept.cancel (h : Kept net t) {navigation : Navigation} (hmem : navigation ∈ t.navigations)
    (hhandle : handle.id = navigation.handle.id)
    (hpending : handle.id ∈ t.reloader.pendingNavigations)
    (hsuppressed : (t.reloader.shouldSuppressErrorPage handle).2 =
      { t.reloader.dcheck (decide (handle.id ∈ t.reloader.pendingNavigations)) with
        pendingNavigations := t.reloader.pendingNavigations.insert handle.id true }) :
    Kept net { t with
      reloader := (t.reloader.shouldSuppressErrorPage handle).2
      navigations := t.navigations.map fun other =>
        if other.handle.id = navigation.handle.id then
          { other with throttled := false, cancelled := true }
        else other } := by
  have hstep : t.reloader.step net (.suppress handle) =
      some (t.reloader.shouldSuppressErrorPage handle).2 := if_pos hpending
  have hids : ((t.navigations.map fun other =>
      if other.handle.id = navigation.handle.id then
        { other with throttled := false, cancelled := true } else other).map
      (·.handle.id)) = t.navigations.map (·.handle.id) := by
    rw [List.map_map]
    refine List.map_congr_left fun other _ => ?_
    simp only [Function.comp_apply]
    split_ifs <;> rfl
  refine ⟨⟨reachable_step h.reloader _ hstep, ?_, ?_, ?_, ?_, ?_, ?_⟩, ?_, ?_⟩
  · intro other' hmem'
    obtain ⟨other, hother, rfl⟩ := List.mem_map.mp hmem'
    split_ifs <;> exact h.handles other hother
  · simp only [hids]
    exact h.distinct
  · intro id hid
    simp only [hsuppressed, AList.mem_insert] at hid
    simp only [hids]
    rcases hid with rfl | hid
    · exact h.pending _ hpending
    · exact h.pending id hid
  · intro other' hmem' hthrottled
    obtain ⟨other, hother, rfl⟩ := List.mem_map.mp hmem'
    simp only [hsuppressed, AList.mem_insert]
    split_ifs at hthrottled with hsame
    · rw [if_neg hsame]
      exact .inr (h.throttled other hother hthrottled)
  · intro other' hmem' hcancelled
    obtain ⟨other, hother, rfl⟩ := List.mem_map.mp hmem'
    simp only [hsuppressed]
    split_ifs at hcancelled with hsame
    · have hkey : other.handle.id = handle.id := hsame.trans hhandle.symm
      rw [if_pos hsame]
      show AList.lookup other.handle.id _ = _
      rw [hkey, AList.lookup_insert]
    · have hkey : other.handle.id ≠ handle.id := fun heq => hsame (heq.trans hhandle)
      rw [if_neg hsame, AList.lookup_insert_ne hkey]
      exact h.cancelled other hother hcancelled
  · intro info hinfo
    rw [hsuppressed] at hinfo
    exact h.page info hinfo
  · intro timer htimer
    rw [hsuppressed] at htimer
    exact h.armed timer htimer
  · intro hnil
    rw [List.map_eq_nil_iff] at hnil
    exact absurd hnil (List.ne_nil_of_mem hmem)

/-- Without the throttle, or when it lets the error page through, the error page commits. -/
lemma Kept.commitErrorPage (h : Kept net t) {s : NetErrorAutoReloader}
    (hreach : NetErrorAutoReloader.Reachable net s)
    (hsame : s = t.reloader ∨ s = t.reloader.dcheck true)
    (hframe : handle.isInPrimaryMainFrame = true) (hcommitted : handle.hasCommitted = true) :
    Kept net ({ t with reloader := s }.finish net handle .committed) := by
  apply Kept.finish _ hframe (.inl hcommitted)
  rcases hsame with rfl | rfl
  · exact h
  · exact h.setReloader hreach rfl (fun _ heq => heq) h.armed h.retrying

/-- **A request fails.**  The navigation ends with an error page, or its error is shown already. -/
lemma Kept.fail (h : Kept net t) {navigation : Navigation} (hmem : navigation ∈ t.navigations)
    (error : NetError) (secure : Bool) :
    Kept net (t.fail net navigation error secure) ∧
      ((t.fail net navigation error secure).find navigation.handle.id = none ∨
        (∃ info, t.reloader.currentReloadableErrorPageInfo = some info ∧ info.error = error) ∧
          (t.fail net navigation error secure).page = t.page) := by
  obtain ⟨hframe, -⟩ := h.handles navigation hmem
  have hgone : ∀ (s : NetErrorAutoReloader) (handle : NavigationHandle),
      handle.id = navigation.handle.id →
      ({ t with reloader := s }.finish net handle .committed).find navigation.handle.id = none := by
    intro s handle hid
    rw [find_eq_none]
    simp [Tab.finish, hid]
  cases hthrottled : navigation.throttled with
  | false =>
      simp only [Tab.fail, NetErrorAutoReloader.willFailRequest, hthrottled, Bool.false_eq_true,
        if_false]
      exact ⟨h.commitErrorPage h.reloader (.inl rfl) hframe rfl, .inl (hgone _ _ rfl)⟩
  | true =>
      have hpending := h.throttled navigation hmem hthrottled
      simp only [Tab.fail, NetErrorAutoReloader.willFailRequest, hthrottled, if_true]
      generalize hhandle : { navigation.handle with
        netErrorCode := error, isSecureNetworkError := secure } = handle
      have hid : handle.id = navigation.handle.id := by rw [← hhandle]
      have herror : handle.netErrorCode = error := by rw [← hhandle]
      have hpending' : handle.id ∈ t.reloader.pendingNavigations := hid ▸ hpending
      rcases NetErrorAutoReloader.shouldSuppressErrorPage_cases handle t.reloader with
        ⟨hanswer, hleft⟩ | ⟨hanswer, ⟨info, hinfo, -, hsame⟩, hleft⟩
      · have hstep : t.reloader.step net (.suppress handle) = some (t.reloader.dcheck true) := by
          rw [← decide_eq_true hpending', ← hleft]
          exact if_pos hpending'
        rw [hanswer, hleft, decide_eq_true hpending']
        simp only [Bool.false_eq_true, if_false]
        exact ⟨h.commitErrorPage (reachable_step h.reloader _ hstep) (.inr rfl) hframe rfl,
          .inl (hgone _ _ rfl)⟩
      · rw [hanswer]
        simp only [if_true]
        exact ⟨h.cancel hmem hid hpending' hleft,
          .inr ⟨⟨info, hinfo, hsame.trans herror⟩, trivial⟩⟩

/-! ## Steps and runs -/

lemma noPending_of_nil (h : Sound net t) (hnil : t.navigations = []) :
    t.reloader.noPending = true := by
  rw [NetErrorAutoReloader.noPending, List.isEmpty_iff, List.eq_nil_iff_forall_not_mem]
  intro id hid
  have hmem := h.pending id (AList.mem_keys.mpr hid)
  rw [hnil] at hmem
  cases hmem

/-- One of the observers is told of a change. -/
lemma Kept.pauseOrResume (h : Kept net t) {s : NetErrorAutoReloader} {up : Bool}
    (hreach : NetErrorAutoReloader.Reachable net (s.pauseOrResume up))
    (hpending : s.pendingNavigations = t.reloader.pendingNavigations)
    (hinfo : s.currentReloadableErrorPageInfo = t.reloader.currentReloadableErrorPageInfo)
    (harmed : Armed s)
    (hup : s.isOnline = true → s.isWebContentsVisible = true → up = true) :
    Kept net { t with reloader := s.pauseOrResume up } := by
  obtain ⟨hpending', hinfo'⟩ := NetErrorAutoReloader.pauseOrResume_frame (s := s) up
  refine h.setReloader hreach (hpending'.trans hpending) ?_ (harmed.pauseOrResume up) ?_
  · intro info heq
    rw [← hinfo, ← hinfo']
    exact heq
  · intro hnil
    have hnone := noPending_of_nil h.toSound hnil
    refine .inl (Retrying.pauseOrResume ?_ hup)
    rw [NetErrorAutoReloader.noPending, hpending]
    exact hnone

/-- When the timer fires, the tab starts to reload its page. -/
lemma timerFires_spec (h : Kept net t) {timer : OneShotTimer}
    (htimer : t.reloader.nextReloadTimer = some timer) (id : ℕ) :
    ∃ page, t.page = some page ∧ step net t (.timerFires id) =
      if (t.find id).isNone then
        some ({ t with reloader := t.reloader.fired timer }.start (reloadOf id page))
      else none := by
  have hkept := NetErrorAutoReloader.timerKept_of_reachable h.reloader
  obtain ⟨-, honline, hvisible, hinfo, -⟩ := hkept.timer timer htimer
  obtain ⟨info, hinfo⟩ := Option.isSome_iff_exists.mp hinfo
  obtain ⟨page, hpage, -⟩ := h.page info hinfo
  refine ⟨page, hpage, ?_⟩
  simp [step, NetErrorAutoReloader.step, NetErrorAutoReloader.fired, htimer,
    h.armed timer htimer, honline, hvisible, hpage]

/-- The reload starts, whatever the timer has left. -/
lemma Kept.reload (h : Kept net t) {timer : OneShotTimer}
    (htimer : t.reloader.nextReloadTimer = some timer) (hfresh : t.find id = none)
    (page : NavigationHandle) :
    Kept net ({ t with reloader := t.reloader.fired timer }.start (reloadOf id page)) := by
  have hstep : t.reloader.step net .timerFires = some (t.reloader.fired timer) := by
    simp [NetErrorAutoReloader.step, NetErrorAutoReloader.fired, htimer, h.armed timer htimer]
  obtain ⟨hpending, hinfo⟩ := NetErrorAutoReloader.fired_frame timer t.reloader
  apply Sound.start _ rfl rfl hfresh
  refine ⟨reachable_step h.reloader _ hstep, h.handles, h.distinct, ?_, ?_, ?_, ?_⟩
  · simp only [hpending]
    exact h.pending
  · simp only [hpending]
    exact h.throttled
  · simp only [hpending]
    exact h.cancelled
  · simp only [hinfo]
    exact h.page

/-- The step lemma. -/
lemma Kept.step (h : Kept net t) {label : Label} (hstep : t.step net label = some t') :
    Kept net t' := by
  cases label with
  | start handle =>
      simp only [Tab.step] at hstep
      split_ifs at hstep with hguard
      obtain rfl := Option.some.inj hstep
      simp only [Bool.and_eq_true, Bool.not_eq_true', Option.isNone_iff_eq_none] at hguard
      exact h.toSound.start hguard.1.1 hguard.1.2 hguard.2
  | fail id error secure =>
      obtain ⟨navigation, hfind, hrest⟩ := Option.bind_eq_some_iff.mp hstep
      split_ifs at hrest
      obtain rfl := Option.some.inj hrest
      exact (h.fail (mem_of_find hfind).1 error secure).1
  | commit id =>
      obtain ⟨navigation, hfind, hrest⟩ := Option.bind_eq_some_iff.mp hstep
      split_ifs at hrest
      obtain rfl := Option.some.inj hrest
      apply h.finish _ (.inl rfl)
      exact (h.handles navigation (mem_of_find hfind).1).1
  | leave id =>
      obtain ⟨navigation, hfind, hrest⟩ := Option.bind_eq_some_iff.mp hstep
      obtain rfl := Option.some.inj hrest
      apply h.finish (h.handles navigation (mem_of_find hfind).1).1
      cases hcancelled : navigation.cancelled with
      | false => exact .inr (.inr rfl)
      | true => exact .inr (.inl (h.cancelled navigation (mem_of_find hfind).1 hcancelled))
  | navigationStopped =>
      obtain rfl := Option.some.inj hstep
      refine h.setReloader (reachable_step h.reloader .navigationStopped rfl) rfl ?_
        (Armed.of_timer rfl) fun _ => .inl (Retrying.of_info rfl)
      intro info hinfo
      cases hinfo
  | visibilityChanged visibility =>
      obtain rfl := Option.some.inj hstep
      have hreach := reachable_step h.reloader (.visibilityChanged visibility) rfl
      rw [NetErrorAutoReloader.onVisibilityChanged_eq] at hreach ⊢
      exact h.pauseOrResume hreach rfl rfl h.armed fun _ hvisible => hvisible
  | connectionChanged connected =>
      obtain rfl := Option.some.inj hstep
      have hreach := reachable_step h.reloader (.connectionChanged connected) rfl
      rw [NetErrorAutoReloader.onConnectionChanged_eq] at hreach ⊢
      exact h.pauseOrResume hreach rfl rfl h.armed fun honline _ => honline
  | timerFires id =>
      cases htimer : t.reloader.nextReloadTimer with
      | none => simp [Tab.step, NetErrorAutoReloader.step, htimer] at hstep
      | some timer =>
          obtain ⟨page, -, heq⟩ := timerFires_spec h htimer id
          rw [heq] at hstep
          split_ifs at hstep with hfresh
          obtain rfl := Option.some.inj hstep
          exact h.reload htimer (Option.isNone_iff_eq_none.mp hfresh) page

lemma kept_of_reachable (h : Reachable net t) : Kept net t := by
  obtain ⟨visibility, first, hframe, hcommitted, hrun⟩ := h
  exact invariant_of_run (fun _ _ h ⟨_, hstep⟩ => h.step hstep) hrun
    (kept_create visibility hframe hcommitted)

lemma isErrorPage_of_shouldAutoReload (hreload : shouldAutoReload net handle = true) :
    handle.isErrorPage = true := by
  simp only [shouldAutoReload, Bool.and_eq_true] at hreload
  simp only [hreload]

/-- The timer that is set was started with the delay for the reloads so far. -/
lemma Kept.delay_eq (h : Kept net t) {timer : OneShotTimer}
    (htimer : t.reloader.nextReloadTimer = some timer) :
    timer = ⟨getNextReloadDelay t.reloader.numReloadsForCurrentError, true⟩ := by
  have hkept := NetErrorAutoReloader.timerKept_of_reachable h.reloader
  obtain ⟨-, -, -, -, before, after, hlog, hreset, hstart, hreload⟩ := hkept.timer timer htimer
  have hrunning := h.armed timer htimer
  have hdelay := hkept.delays before _ after hlog timer.delay rfl
  have hcount : reloadsSinceReset t.reloader.log = reloadsSinceReset before := by
    rw [hlog]
    exact NetErrorAutoReloader.reloadsSinceReset_append (by simpa using hreset)
      (by simpa using hreload hrunning)
  rw [getElem?_delays] at hdelay
  rw [hkept.count, hcount, Option.some.inj hdelay, ← hrunning]

/-- **The tab keeps retrying.**  In every state that is reached, the reloader is one that its own
runs arrive at, so that the throttle asks about pending navigations only and no assertion fails.  A
request that fails and is cancelled has the error of the page that is shown, which stays.  And when
no navigation is in flight, an error page that may be reloaded waits for a running timer, with the
delay for the reloads so far, unless the last navigation ended without either committing or being
cancelled. -/
theorem tab_keeps_retrying (h : Reachable net t) :
    NetErrorAutoReloader.Reachable net t.reloader ∧ .dcheck false ∉ t.reloader.log ∧
      (∀ navigation ∈ t.navigations, navigation.throttled = true →
        navigation.handle.id ∈ t.reloader.pendingNavigations) ∧
      (∀ id error secure t', t.step net (.fail id error secure) = some t' →
        (t'.find id).isSome = true → ∃ page, t.page = some page ∧ t'.page = some page ∧
          page.isErrorPage = true ∧ page.netErrorCode = error) ∧
      (t.navigations = [] → t.reloader.currentReloadableErrorPageInfo.isSome = true →
        t.reloader.isOnline = true → t.reloader.isWebContentsVisible = true →
          t.lastEnd ≠ some .abandoned → ∃ delay,
            delays[min t.reloader.numReloadsForCurrentError (delays.length - 1)]? = some delay ∧
              t.reloader.nextReloadTimer = some ⟨delay, true⟩) := by
  have hkept := kept_of_reachable h
  have htimers := NetErrorAutoReloader.timerKept_of_reachable hkept.reloader
  refine ⟨hkept.reloader, htimers.dchecks, hkept.throttled, ?_, ?_⟩
  · intro id error secure t' hstep hsome
    obtain ⟨navigation, hfind, hrest⟩ := Option.bind_eq_some_iff.mp hstep
    split_ifs at hrest
    obtain rfl := Option.some.inj hrest
    obtain ⟨hmem, rfl⟩ := mem_of_find hfind
    rcases (hkept.fail hmem error secure).2 with hnone | ⟨⟨info, hinfo, herror⟩, hpage⟩
    · rw [hnone] at hsome
      cases hsome
    · obtain ⟨page, hshown, hreload, hcode⟩ := hkept.page info hinfo
      exact ⟨page, hshown, hpage.trans hshown, isErrorPage_of_shouldAutoReload hreload,
        hcode.trans herror⟩
  · intro hnil hinfo honline hvisible hended
    have hretrying := (hkept.retrying hnil).resolve_right hended
    obtain ⟨timer, htimer⟩ := Option.isSome_iff_exists.mp (hretrying hinfo honline hvisible)
    refine ⟨_, getElem?_delays _, ?_⟩
    rw [htimer, hkept.delay_eq htimer]

/-- The reload of an error page fails with the error that is shown, and is cancelled. -/
def cancelledReload : List Label :=
  [.fail 0 (.other 0) false, .timerFires 1, .fail 1 (.other 0) false, .leave 1]

/-- The next reload comes after five seconds, the delay for one reload. -/
theorem tab_keeps_retrying_cancelledReload : ∃ t : Tab, t.navigations = [] ∧
    t.reloader.numReloadsForCurrentError = 1 ∧
      t.reloader.nextReloadTimer = some ⟨5, true⟩ := by
  have hrun : Reachable NetErrorAutoReloader.plainErrors _ :=
    ⟨.visible, { id := 0 }, rfl, rfl, run_of_foldlM cancelledReload rfl⟩
  obtain ⟨delay, hdelay, htimer⟩ :=
    (tab_keeps_retrying hrun).2.2.2.2 rfl rfl rfl rfl (by decide)
  obtain rfl : 5 = delay := Option.some.inj hdelay
  exact ⟨_, rfl, rfl, htimer⟩

end Tab

end TorOnion
