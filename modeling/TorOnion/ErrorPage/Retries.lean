import TorOnion.ErrorPage.Tab

/-!
# A page that keeps failing: `error_loader.cpp`

The loop that the handlers make together: the timer fires, the page is reloaded, the reload fails
as the page did, and the next reload is scheduled, until a reload loads the page.

The throttle cancels the failed reload when the URL that the reloader remembers is that of the
page; else the error page commits again.  For the loop it makes no difference
(`Tab.Waiting.failedReload`).
-/

namespace TorOnion

namespace Tab

variable {net : NetErrorClasses} {t : Tab} {id : ℕ} {timer : OneShotTimer}
  {page handle : NavigationHandle} {info : ErrorPageInfo}

/-- A reload that fails as the page that is shown did: the timer fires, the request fails, and the
navigation ends if the throttle has cancelled it. -/
def failedReload (net : NetErrorClasses) (id : ℕ) (t : Tab) : Option Tab := do
  let page ← t.page
  let t ← t.step net (.timerFires id)
  let t ← t.step net (.fail id page.netErrorCode page.isSecureNetworkError)
  if (t.find id).isSome then t.step net (.leave id) else some t

/-- One failed reload after the other, with the handles that are given. -/
def failedReloads (net : NetErrorClasses) : List ℕ → Tab → Option Tab
  | [], t => some t
  | id :: ids, t => do
      let t ← failedReload net id t
      failedReloads net ids t

/-- A reload that loads the page. -/
def loadingReload (net : NetErrorClasses) (id : ℕ) (t : Tab) : Option Tab := do
  let t ← t.step net (.timerFires id)
  t.step net (.commit id)

/-! ## The reload starts -/

/-- The reload that the timer asks for starts, with nothing else pending. -/
lemma didStartNavigation_fired {s : NetErrorAutoReloader} (honline : s.isOnline = true)
    (hvisible : s.isWebContentsVisible = true) (hpending : s.pendingNavigations = ∅)
    (timer : OneShotTimer) (handle : NavigationHandle)
    (hframe : handle.isInPrimaryMainFrame = true) :
    (s.fired timer).didStartNavigation handle =
      { s with
        pendingNavigations := (∅ : AList fun _ : ℕ => Bool).insert handle.id false
        nextReloadTimer := none
        numReloadsForCurrentError := s.numReloadsForCurrentError + 1
        isAutoReloadInProgress := true
        log := s.log ++ [.dcheck s.currentReloadableErrorPageInfo.isSome] ++ [.reload] } := by
  have hfired : s.fired timer =
      { s with
        nextReloadTimer := some { timer with isRunning := false }
        numReloadsForCurrentError := s.numReloadsForCurrentError + 1
        isAutoReloadInProgress := true
        log := s.log ++ [.dcheck s.currentReloadableErrorPageInfo.isSome] ++ [.reload] } := by
    rw [NetErrorAutoReloader.fired, NetErrorAutoReloader.reloadMainFrame, if_neg]
    · rfl
    · have hvisible' : s.visibility ≠ .hidden := by
        simpa [NetErrorAutoReloader.isWebContentsVisible] using hvisible
      simp [NetErrorAutoReloader.dcheck, NetErrorAutoReloader.isWebContentsVisible, honline,
        hvisible']
  rw [NetErrorAutoReloader.didStartNavigation_eq hframe, hfired,
    NetErrorAutoReloader.emplacePending, if_neg]
  · simp only [NetErrorAutoReloader.pauseAutoReloadTimerIfRunning, hpending]
  · simp only [NetErrorAutoReloader.pauseAutoReloadTimerIfRunning, hpending]
    exact AList.notMem_empty handle.id

/-- The tab in which the reload of its page is the only pending navigation. -/
structure Reloading (id : ℕ) (page : NavigationHandle) (info : ErrorPageInfo) (count : ℕ)
    (others : List Navigation) (t : Tab) : Prop where
  inFlight : t.navigations = others ++
    [{ handle := reloadOf id page, throttled := decide (info.url = page.url) }]
  fresh : id ∉ others.map (·.handle.id)
  pending : t.reloader.pendingNavigations = (∅ : AList fun _ : ℕ => Bool).insert id false
  remembered : t.reloader.currentReloadableErrorPageInfo = some info
  counted : t.reloader.numReloadsForCurrentError = count
  online : t.reloader.isOnline = true
  visible : t.reloader.isWebContentsVisible = true

lemma reloading_of_timerFires (h : Kept net t)
    (htimer : t.reloader.nextReloadTimer = some timer) (hfresh : t.find id = none)
    (hpage : t.page = some page)
    (hinfo : t.reloader.currentReloadableErrorPageInfo = some info) :
    ∃ t', t.step net (.timerFires id) = some t' ∧
      Reloading id page info (t.reloader.numReloadsForCurrentError + 1) t.navigations t' := by
  obtain ⟨page', hpage', hstep⟩ := timerFires_spec h htimer id
  obtain rfl := Option.some.inj (hpage.symm.trans hpage')
  rw [hfresh, Option.isNone_none, if_pos rfl] at hstep
  have htimers := NetErrorAutoReloader.timerKept_of_reachable h.reloader
  obtain ⟨hnone, honline, hvisible, -⟩ := htimers.timer timer htimer
  have hempty := NetErrorAutoReloader.pendingNavigations_eq_empty hnone
  have hstarted := didStartNavigation_fired honline hvisible hempty timer (reloadOf id page) rfl
  refine ⟨_, hstep, ?_, find_eq_none.mp hfresh, ?_, ?_, ?_, ?_, ?_⟩
  all_goals simp only [start, hstarted]
  · simp [NetErrorAutoReloader.maybeCreateAndAddNavigationThrottle,
      NetErrorAutoReloader.maybeCreateAndAdd, hinfo, reloadOf]
  · rfl
  · exact hinfo
  · exact honline
  · exact hvisible

/-! ## The reload fails -/

/-- What a failed reload leaves behind: the error page with its count, and the next timer. -/
structure Rescheduled (info : ErrorPageInfo) (count : ℕ) (s : NetErrorAutoReloader) : Prop where
  remembered : s.currentReloadableErrorPageInfo = some info
  counted : s.numReloadsForCurrentError = count
  timer : s.nextReloadTimer = some ⟨getNextReloadDelay count, true⟩

lemma rescheduled_schedule {s : NetErrorAutoReloader} {count : ℕ}
    (hinfo : s.currentReloadableErrorPageInfo = some info)
    (hcount : s.numReloadsForCurrentError = count) (honline : s.isOnline = true)
    (hvisible : s.isWebContentsVisible = true) :
    Rescheduled info count s.scheduleNextAutoReload := by
  refine ⟨NetErrorAutoReloader.scheduleNextAutoReload_info.trans hinfo, ?_, ?_⟩
  · rw [← hcount]
    unfold NetErrorAutoReloader.scheduleNextAutoReload
    simp only
    split_ifs <;> rfl
  · rw [← hcount]
    exact NetErrorAutoReloader.timer_scheduleNextAutoReload honline hvisible

/-- The cancelled reload ends. -/
lemma rescheduled_of_suppressed {s : NetErrorAutoReloader} {count : ℕ}
    (hinfo : s.currentReloadableErrorPageInfo = some info)
    (hcount : s.numReloadsForCurrentError = count) (honline : s.isOnline = true)
    (hvisible : s.isWebContentsVisible = true) (hframe : handle.isInPrimaryMainFrame = true)
    (hcommitted : handle.hasCommitted = false)
    (hlast : (s.erasePending handle.id).noPending = true)
    (hsuppressed : s.pendingNavigations.lookup handle.id = some true) :
    Rescheduled info count (s.didFinishNavigation net handle) := by
  rw [NetErrorAutoReloader.didFinishNavigation_of_last hframe hcommitted hlast (by rw [hinfo]; rfl),
    hsuppressed]
  simp only [beq_self_eq_true, if_true]
  exact rescheduled_schedule hinfo hcount honline hvisible

/-- The error page commits again. -/
lemma rescheduled_of_committed {s : NetErrorAutoReloader} {count : ℕ}
    (hinfo : s.currentReloadableErrorPageInfo = some info)
    (hcount : s.numReloadsForCurrentError = count) (honline : s.isOnline = true)
    (hvisible : s.isWebContentsVisible = true) (hframe : handle.isInPrimaryMainFrame = true)
    (hcommitted : handle.hasCommitted = true) (hreload : shouldAutoReload net handle = true)
    (htype : handle.reloadType ≠ .none) (herror : handle.netErrorCode = info.error)
    (hlast : (s.erasePending handle.id).noPending = true) :
    Rescheduled info count (s.didFinishNavigation net handle) := by
  have hlast' : ((s.erasePending handle.id).dcheck true).noPending = true := hlast
  have hinfo' : ((s.erasePending handle.id).dcheck true).currentReloadableErrorPageInfo =
      some info := hinfo
  have heq : s.didFinishNavigation net handle =
      ((s.erasePending handle.id).dcheck true).scheduleNextAutoReload := by
    rw [NetErrorAutoReloader.didFinishNavigation_eq hframe, if_pos hcommitted]
    simp [NetErrorAutoReloader.didCommit, hcommitted, hreload, htype, herror, hlast', hinfo']
  rw [heq]
  exact rescheduled_schedule hinfo hcount honline hvisible

/-- The reload as its request fails, with the error of the page. -/
def failedReloadOf (id : ℕ) (page : NavigationHandle) : NavigationHandle :=
  { reloadOf id page with
    netErrorCode := page.netErrorCode, isSecureNetworkError := page.isSecureNetworkError }

variable {count : ℕ} {others : List Navigation}

lemma find_of_append {navigation : Navigation} (hinFlight : t.navigations = others ++ [navigation])
    (hfresh : id ∉ others.map (·.handle.id)) (hid : navigation.handle.id = id) :
    t.find id = some navigation := by
  have hothers : others.find? (·.handle.id == id) = none := by
    simpa [List.find?_eq_none] using hfresh
  rw [Tab.find, hinFlight, List.find?_append, hothers, Option.none_or]
  simp [hid]

lemma Reloading.find (h : Reloading id page info count others t) : t.find id =
    some { handle := reloadOf id page, throttled := decide (info.url = page.url) } :=
  find_of_append h.inFlight h.fresh rfl

lemma netErrorCode_ne_ok (hreload : shouldAutoReload net page = true) :
    page.netErrorCode ≠ .ok := by
  intro hok
  simp [shouldAutoReload, hok] at hreload

lemma Reloading.step_fail (h : Reloading id page info count others t)
    (hreload : shouldAutoReload net page = true) :
    t.step net (.fail id page.netErrorCode page.isSecureNetworkError) =
      some (t.fail net { handle := reloadOf id page, throttled := decide (info.url = page.url) }
        page.netErrorCode page.isSecureNetworkError) := by
  simp [Tab.step, h.find, netErrorCode_ne_ok hreload]

lemma Reloading.noPending_erase (h : Reloading id page info count others t) :
    (t.reloader.erasePending id).noPending = true := by
  simp [NetErrorAutoReloader.erasePending, NetErrorAutoReloader.noPending, h.pending]

/-- Without the reload, the navigations in flight are those that were before. -/
lemma filter_reload (hfresh : id ∉ others.map (·.handle.id)) {navigation : Navigation}
    (hid : navigation.handle.id = id) :
    (others ++ [navigation]).filter (·.handle.id != id) = others := by
  have hothers : others.filter (·.handle.id != id) = others := by
    rw [List.filter_eq_self]
    intro other hmem
    rw [bne_iff_ne]
    rintro rfl
    exact hfresh (List.mem_map_of_mem hmem)
  rw [List.filter_append, hothers]
  simp [hid]

/-- The throttle lets the error page through, which commits again. -/
lemma Reloading.commits (h : Reloading id page info count others t)
    (hurl : info.url ≠ page.url) (hreload : shouldAutoReload net page = true)
    (herror : page.netErrorCode = info.error) :
    ∃ t', t.step net (.fail id page.netErrorCode page.isSecureNetworkError) = some t' ∧
      t'.find id = none ∧ t'.navigations = others ∧ Rescheduled info count t'.reloader := by
  refine ⟨_, h.step_fail hreload, ?_⟩
  have hfail : t.fail net { handle := reloadOf id page, throttled := decide (info.url = page.url) }
      page.netErrorCode page.isSecureNetworkError =
      t.finish net { failedReloadOf id page with hasCommitted := true, isErrorPage := true }
        .committed := by
    simp [Tab.fail, NetErrorAutoReloader.willFailRequest, hurl, failedReloadOf]
  have hleft : t.navigations.filter (·.handle.id != id) = others := by
    rw [h.inFlight]
    exact filter_reload h.fresh rfl
  rw [hfail]
  refine ⟨?_, hleft, ?_⟩
  · rw [find_eq_none]
    show id ∉ (t.navigations.filter (·.handle.id != id)).map (·.handle.id)
    rw [hleft]
    exact h.fresh
  · have hagain : shouldAutoReload net
        { failedReloadOf id page with hasCommitted := true, isErrorPage := true } = true := by
      refine Eq.trans ?_ hreload
      simp [shouldAutoReload, failedReloadOf, reloadOf, isErrorPage_of_shouldAutoReload hreload]
    have htype : ReloadType.normal ≠ .none := by decide
    exact rescheduled_of_committed h.remembered h.counted h.online h.visible rfl rfl hagain htype
      herror h.noPending_erase

/-- The throttle cancels the reload, and it ends. -/
lemma Reloading.cancels (h : Reloading id page info count others t)
    (hurl : info.url = page.url) (hreload : shouldAutoReload net page = true)
    (herror : page.netErrorCode = info.error) :
    ∃ t' t'', t.step net (.fail id page.netErrorCode page.isSecureNetworkError) = some t' ∧
      (t'.find id).isSome = true ∧ t'.step net (.leave id) = some t'' ∧
        t''.navigations = others ∧ Rescheduled info count t''.reloader := by
  let reload : Navigation := { handle := reloadOf id page, cancelled := true }
  let suppressed : NetErrorAutoReloader :=
    { t.reloader.dcheck true with
      pendingNavigations := t.reloader.pendingNavigations.insert id true }
  have hmem : id ∈ t.reloader.pendingNavigations := by
    rw [h.pending, AList.mem_insert]
    exact .inl rfl
  have hanswer : t.reloader.shouldSuppressErrorPage (failedReloadOf id page) =
      (true, suppressed) := by
    simp [NetErrorAutoReloader.shouldSuppressErrorPage, NetErrorAutoReloader.dcheck, h.remembered,
      failedReloadOf, reloadOf, hurl, herror, hmem, suppressed]
  have hmap : (t.navigations.map fun other =>
      if other.handle.id = id then { other with throttled := false, cancelled := true }
      else other) = others ++ [reload] := by
    have hothers : others.map (fun other =>
        if other.handle.id = id then { other with throttled := false, cancelled := true }
        else other) = others := by
      refine (List.map_congr_left fun other hother => if_neg ?_).trans (List.map_id others)
      intro heq
      exact h.fresh (heq ▸ List.mem_map_of_mem hother)
    rw [h.inFlight, List.map_append, hothers]
    simp [reloadOf, reload]
  have hfail : t.fail net { handle := reloadOf id page, throttled := decide (info.url = page.url) }
      page.netErrorCode page.isSecureNetworkError =
      { t with reloader := suppressed, navigations := others ++ [reload] } := by
    rw [← hmap]
    simp only [Tab.fail, NetErrorAutoReloader.willFailRequest, decide_eq_true hurl, if_true]
    simp only [failedReloadOf] at hanswer
    rw [hanswer]
    rfl
  have hfind : Tab.find id { t with reloader := suppressed, navigations := others ++ [reload] } =
      some reload := find_of_append rfl h.fresh rfl
  refine ⟨_, Tab.finish net (reloadOf id page) .cancelled
    { t with reloader := suppressed, navigations := others ++ [reload] },
    h.step_fail hreload, ?_, ?_, ?_, ?_⟩
  · rw [hfail, hfind]
    rfl
  · rw [hfail, Tab.step, hfind]
    rfl
  · exact filter_reload h.fresh rfl
  · have hlast : (suppressed.erasePending id).noPending = true := by
      simp [NetErrorAutoReloader.erasePending, NetErrorAutoReloader.noPending, h.pending,
        suppressed]
    show Rescheduled info count (suppressed.didFinishNavigation net (reloadOf id page))
    exact rescheduled_of_suppressed h.remembered h.counted h.online h.visible rfl rfl hlast
      (AList.lookup_insert t.reloader.pendingNavigations)

/-! ## The loop -/

lemma Reachable.step (h : Reachable net t) {label : Label} {t' : Tab}
    (hstep : t.step net label = some t') : Reachable net t' := by
  obtain ⟨visibility, first, hframe, hcommitted, hrun⟩ := h
  exact ⟨visibility, first, hframe, hcommitted, hrun.tail ⟨label, hstep⟩⟩

/-- A tab whose error page waits for its next reload. -/
structure Waiting (net : NetErrorClasses) (info : ErrorPageInfo) (count : ℕ)
    (others : List Navigation) (t : Tab) : Prop where
  reachable : Reachable net t
  inFlight : t.navigations = others
  rescheduled : Rescheduled info count t.reloader

/-- The timer of a page that waits starts its reload. -/
lemma Waiting.reloads (h : Waiting net info count others t)
    (hfresh : id ∉ others.map (·.handle.id)) :
    ∃ page t', t.page = some page ∧ shouldAutoReload net page = true ∧
      page.netErrorCode = info.error ∧ t.step net (.timerFires id) = some t' ∧
        Reloading id page info (count + 1) others t' := by
  have hkept := kept_of_reachable h.reachable
  obtain ⟨page, hpage, hreload, herror⟩ := hkept.page info h.rescheduled.remembered
  have hfind : t.find id = none := by
    rw [find_eq_none, h.inFlight]
    exact hfresh
  obtain ⟨t', hfires, hreloading⟩ :=
    reloading_of_timerFires hkept h.rescheduled.timer hfind hpage h.rescheduled.remembered
  rw [h.rescheduled.counted, h.inFlight] at hreloading
  exact ⟨page, t', hpage, hreload, herror, hfires, hreloading⟩

/-- A reload that fails leaves the page waiting, with one more reload counted. -/
lemma Waiting.failedReload (h : Waiting net info count others t)
    (hfresh : id ∉ others.map (·.handle.id)) :
    ∃ t', failedReload net id t = some t' ∧ Waiting net info (count + 1) others t' := by
  obtain ⟨page, t₁, hpage, hreload, herror, hfires, hreloading⟩ := h.reloads hfresh
  have hreach := h.reachable.step hfires
  by_cases hurl : info.url = page.url
  · obtain ⟨t₂, t₃, hfails, hsome, hleaves, hothers, hrescheduled⟩ :=
      hreloading.cancels hurl hreload herror
    refine ⟨t₃, ?_, (hreach.step hfails).step hleaves, hothers, hrescheduled⟩
    simp [Tab.failedReload, hpage, hfires, hfails, hsome, hleaves]
  · obtain ⟨t₂, hfails, hnone, hothers, hrescheduled⟩ := hreloading.commits hurl hreload herror
    refine ⟨t₂, ?_, hreach.step hfails, hothers, hrescheduled⟩
    simp [Tab.failedReload, hpage, hfires, hfails, hnone]

/-- The run lemma. -/
lemma Waiting.failedReloads {ids : List ℕ} :
    ∀ {count : ℕ} {t : Tab}, Waiting net info count others t →
      (∀ id ∈ ids, id ∉ others.map (·.handle.id)) →
        ∃ t', failedReloads net ids t = some t' ∧
          Waiting net info (count + ids.length) others t' := by
  induction ids with
  | nil =>
      intro count t h hfresh
      exact ⟨t, rfl, h⟩
  | cons id ids ih =>
      intro count t h hfresh
      obtain ⟨t₁, hround, hwaiting⟩ := h.failedReload (hfresh id List.mem_cons_self)
      obtain ⟨t₂, hrounds, hwaiting'⟩ :=
        ih hwaiting fun id hid => hfresh id (List.mem_cons_of_mem _ hid)
      refine ⟨t₂, Option.bind_eq_some_iff.mpr ⟨t₁, hround, hrounds⟩, ?_⟩
      rw [List.length_cons, Nat.add_comm ids.length 1, ← Nat.add_assoc]
      exact hwaiting'

/-- A reload that loads the page ends the loop. -/
lemma Waiting.loadingReload (h : Waiting net info count others t)
    (hfresh : id ∉ others.map (·.handle.id)) :
    ∃ t', loadingReload net id t = some t' ∧ t'.navigations = others ∧
      t'.reloader.currentReloadableErrorPageInfo = none ∧
        t'.reloader.numReloadsForCurrentError = 0 ∧ t'.reloader.nextReloadTimer = none := by
  obtain ⟨page, t₁, -, -, -, hfires, hreloading⟩ := h.reloads hfresh
  let loaded : NavigationHandle :=
    { reloadOf id page with hasCommitted := true, isErrorPage := false, netErrorCode := .ok }
  have hloads : t₁.step net (.commit id) = some (t₁.finish net loaded .committed) := by
    rw [Tab.step, hreloading.find]
    rfl
  refine ⟨t₁.finish net loaded .committed,
    Option.bind_eq_some_iff.mpr ⟨t₁, hfires, hloads⟩, ?_, ?_⟩
  · show t₁.navigations.filter (·.handle.id != id) = others
    rw [hreloading.inFlight]
    exact filter_reload hfresh rfl
  · rw [Tab.finish, NetErrorAutoReloader.didFinishNavigation_eq rfl, if_pos rfl]
    exact ⟨rfl, rfl, rfl⟩

lemma waiting_of_timer (h : Reachable net t) (htimer : t.reloader.nextReloadTimer = some timer) :
    ∃ info, t.reloader.currentReloadableErrorPageInfo = some info ∧
      Waiting net info t.reloader.numReloadsForCurrentError t.navigations t := by
  have hkept := kept_of_reachable h
  have htimers := NetErrorAutoReloader.timerKept_of_reachable hkept.reloader
  have hsome := (htimers.timer timer htimer).2.2.2.1
  obtain ⟨info, hinfo⟩ := Option.isSome_iff_exists.mp hsome
  refine ⟨info, hinfo, h, rfl, hinfo, rfl, ?_⟩
  rw [htimer, hkept.delay_eq htimer]

/-- **A page that keeps failing is reloaded until it loads.**  From every state in which the timer
is set, any number of reloads may fail as the page did: each of them is made, the error page stays,
and the next reload waits for the delay of the table.  The reload that loads the page then ends the
loop. -/
theorem reloaded_until_loaded (h : Reachable net t)
    (htimer : t.reloader.nextReloadTimer = some timer) (ids : List ℕ)
    (hfresh : ∀ id ∈ ids, t.find id = none) (hfresh' : t.find id = none) :
    ∃ t' t'', failedReloads net ids t = some t' ∧ loadingReload net id t' = some t'' ∧
      (Reachable net t' ∧ t'.navigations = t.navigations ∧
        t'.reloader.currentReloadableErrorPageInfo = t.reloader.currentReloadableErrorPageInfo ∧
        t'.reloader.numReloadsForCurrentError =
          t.reloader.numReloadsForCurrentError + ids.length ∧
        (∃ delay, delays[min (t.reloader.numReloadsForCurrentError + ids.length)
            (delays.length - 1)]? = some delay ∧
          t'.reloader.nextReloadTimer = some ⟨delay, true⟩) ∧
        ∃ page, t'.page = some page ∧ shouldAutoReload net page = true ∧
          t.page.map NavigationHandle.netErrorCode = some page.netErrorCode) ∧
      t''.navigations = t.navigations ∧
        t''.reloader.currentReloadableErrorPageInfo = none ∧
        t''.reloader.numReloadsForCurrentError = 0 ∧ t''.reloader.nextReloadTimer = none := by
  obtain ⟨info, hinfo, hwaiting⟩ := waiting_of_timer h htimer
  obtain ⟨first, hfirst, -, hcode⟩ := (kept_of_reachable h).page info hinfo
  obtain ⟨t', hfails, hwaiting'⟩ :=
    hwaiting.failedReloads fun id hid => find_eq_none.mp (hfresh id hid)
  obtain ⟨t'', hloads, hleft⟩ := hwaiting'.loadingReload (find_eq_none.mp hfresh')
  obtain ⟨page, hpage, hreload, hcode'⟩ :=
    (kept_of_reachable hwaiting'.reachable).page info hwaiting'.rescheduled.remembered
  refine ⟨t', t'', hfails, hloads, ⟨hwaiting'.reachable, hwaiting'.inFlight, ?_,
    hwaiting'.rescheduled.counted, ⟨_, getElem?_delays _, hwaiting'.rescheduled.timer⟩, page, hpage,
    hreload, ?_⟩, hleft⟩
  · rw [hwaiting'.rescheduled.remembered, hinfo]
  · rw [hfirst, Option.map_some, hcode, hcode']

/-- Two reloads of the page fail: the third comes after half a minute. -/
theorem reloaded_until_loaded_twice : ∃ t t' : Tab,
    failedReloads NetErrorAutoReloader.plainErrors [1, 2] t = some t' ∧
      t'.reloader.nextReloadTimer = some ⟨30, true⟩ := by
  have hrun : Reachable NetErrorAutoReloader.plainErrors _ :=
    ⟨.visible, { id := 0 }, rfl, rfl, run_of_foldlM [.fail 0 (.other 0) false] rfl⟩
  obtain ⟨t', -, hfails, -, ⟨-, -, -, -, ⟨delay, hdelay, htimer⟩, -⟩, -⟩ :=
    reloaded_until_loaded hrun rfl [1, 2] (fun _ _ => rfl) (show Tab.find 3 _ = none from rfl)
  obtain rfl : 30 = delay := Option.some.inj hdelay
  exact ⟨_, t', hfails, htimer⟩

end Tab

end TorOnion
