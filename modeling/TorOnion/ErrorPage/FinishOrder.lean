import TorOnion.ErrorPage.ReloadTimer

/-!
# The order in which navigations end

Of several pending navigations that end without committing only the last one decides whether the
next reload is scheduled: the others return early, with their mark in `pending_navigations_`
erased (`finishAll_eq`).  A suppressed error page is therefore followed by no reload when a
navigation that was not suppressed ends after it (`finishOrder_lost`).

The order does not matter exactly when the pending navigations are all suppressed or all not
(`finishOrderFree_iff`).
-/

namespace TorOnion

namespace NetErrorAutoReloader

variable {net : NetErrorClasses} {s : NetErrorAutoReloader} {handle : NavigationHandle}
  {handles : List NavigationHandle}

/-- The handles of the pending navigations, in some order, none of them committed. -/
def EndsAll (s : NetErrorAutoReloader) (handles : List NavigationHandle) : Prop :=
  (handles.map NavigationHandle.id).Perm s.pendingNavigations.keys ∧
    ∀ handle ∈ handles, handle.isInPrimaryMainFrame = true ∧ handle.hasCommitted = false

/-- The calls of `DidFinishNavigation`, one after the other. -/
def finishAll (net : NetErrorClasses) (handles : List NavigationHandle)
    (s : NetErrorAutoReloader) : NetErrorAutoReloader :=
  handles.foldl (fun s handle => s.didFinishNavigation net handle) s

/-- What the order could change: the timer, whether a reload is in progress, the error page and
the count of the reloads. -/
def outcome (s : NetErrorAutoReloader) : Option OneShotTimer × Bool × Option ErrorPageInfo × ℕ :=
  (s.nextReloadTimer, s.isAutoReloadInProgress, s.currentReloadableErrorPageInfo,
    s.numReloadsForCurrentError)

/-- The order in which the pending navigations end does not matter, and a suppressed one is always
followed by a scheduled reload. -/
def FinishOrderFree (net : NetErrorClasses) (s : NetErrorAutoReloader) : Prop :=
  (∀ handles handles', EndsAll s handles → EndsAll s handles' →
    outcome (s.finishAll net handles) = outcome (s.finishAll net handles')) ∧
  ∀ handles, EndsAll s handles → (∃ id, s.pendingNavigations.lookup id = some true) →
    (s.finishAll net handles).nextReloadTimer.isSome = true

/-! ## One navigation after the other -/

/-- A navigation that does not commit while others are pending only leaves
`pending_navigations_`. -/
lemma didFinishNavigation_of_pending (hframe : handle.isInPrimaryMainFrame = true)
    (hcommitted : handle.hasCommitted = false)
    (hpending : (s.erasePending handle.id).noPending = false) :
    s.didFinishNavigation net handle = s.erasePending handle.id := by
  simp [didFinishNavigation, hframe, hcommitted, didNotCommit, hpending]

/-- The last one also decides on the next reload. -/
lemma didFinishNavigation_of_last (hframe : handle.isInPrimaryMainFrame = true)
    (hcommitted : handle.hasCommitted = false)
    (hpending : (s.erasePending handle.id).noPending = true)
    (hinfo : s.currentReloadableErrorPageInfo.isSome = true) :
    s.didFinishNavigation net handle =
      let ended := { s.erasePending handle.id with isAutoReloadInProgress := false }
      if s.pendingNavigations.lookup handle.id == some true then ended.scheduleNextAutoReload
      else ended := by
  have hsome : (s.erasePending handle.id).currentReloadableErrorPageInfo.isNone = false := by
    rw [Option.isNone_eq_false_iff]
    exact hinfo
  simp [didFinishNavigation, hframe, hcommitted, didNotCommit, hpending, hsome]

lemma endsAll_cons (h : EndsAll s (handle :: handles)) :
    EndsAll (s.erasePending handle.id) handles := by
  obtain ⟨hperm, hends⟩ := h
  refine ⟨?_, fun handle' hmem => hends handle' (List.mem_cons_of_mem _ hmem)⟩
  rw [erasePending, AList.keys_erase]
  have herase := hperm.erase handle.id
  rwa [List.map_cons, List.erase_cons_head] at herase

/-- Nothing is pending when no handle is left. -/
lemma EndsAll.noPending_iff (h : EndsAll s handles) : s.noPending = true ↔ handles = [] := by
  rw [noPending, List.isEmpty_iff]
  constructor
  · intro hnil
    exact List.map_eq_nil_iff.mp (List.perm_nil.mp (hnil ▸ h.1))
  · rintro rfl
    exact List.nil_perm.mp h.1

/-- **Only the last navigation decides.** -/
lemma finishAll_eq (h : EndsAll s (handles ++ [handle]))
    (hinfo : s.currentReloadableErrorPageInfo.isSome = true) :
    s.finishAll net (handles ++ [handle]) =
      let ended := { s with pendingNavigations := ∅, isAutoReloadInProgress := false }
      if s.pendingNavigations.lookup handle.id == some true then ended.scheduleNextAutoReload
      else ended := by
  induction handles generalizing s with
  | nil =>
      obtain ⟨hframe, hcommitted⟩ := h.2 handle (by simp)
      have hrest := endsAll_cons h
      have hlast := hrest.noPending_iff.mpr rfl
      have hempty : s.pendingNavigations.erase handle.id = ∅ := pendingNavigations_eq_empty hlast
      have heq := @didFinishNavigation_of_last net s handle hframe hcommitted hlast hinfo
      rw [erasePending, hempty] at heq
      exact heq
  | cons first handles ih =>
      obtain ⟨hframe, hcommitted⟩ := h.2 first (by simp)
      have hrest := endsAll_cons h
      have hpending : (s.erasePending first.id).noPending = false := by
        rw [← Bool.not_eq_true, hrest.noPending_iff]
        simp
      have hne : handle.id ≠ first.id := by
        have hnodup := h.1.nodup_iff.mpr s.pendingNavigations.keys_nodup
        simp only [List.map_append, List.cons_append, List.map_cons, List.nodup_cons] at hnodup
        rintro heq
        exact hnodup.1 (heq ▸ by simp)
      rw [finishAll, List.cons_append, List.foldl_cons,
        didFinishNavigation_of_pending hframe hcommitted hpending]
      refine (ih hrest hinfo).trans ?_
      simp only [erasePending, AList.lookup_erase_ne hne]

/-! ## All orders -/

lemma timer_scheduleNextAutoReload (honline : s.isOnline = true)
    (hvisible : s.isWebContentsVisible = true) : s.scheduleNextAutoReload.nextReloadTimer =
      some ⟨getNextReloadDelay s.numReloadsForCurrentError, true⟩ := by
  have hvisible' : (s.dcheck s.currentReloadableErrorPageInfo.isSome).isWebContentsVisible = true :=
    hvisible
  simp [scheduleNextAutoReload, dcheck, honline] at hvisible' ⊢
  simp [hvisible']

/-- A navigation that has not committed. -/
def uncommitted (id : ℕ) : NavigationHandle where
  id := id

/-- An order in which a navigation comes last. -/
lemma exists_endsAll_last {id : ℕ} (h : id ∈ s.pendingNavigations) :
    ∃ handles, EndsAll s (handles ++ [uncommitted id]) := by
  refine ⟨(s.pendingNavigations.keys.erase id).map uncommitted, ?_, ?_⟩
  · rw [List.map_append, List.map_map]
    change ((s.pendingNavigations.keys.erase id).map (fun id => id) ++ [id]).Perm _
    rw [List.map_id']
    exact (List.perm_append_singleton id _).trans
      (List.perm_cons_erase (AList.mem_keys.mp h)).symm
  · intro handle hmem
    rw [List.mem_append, List.mem_map, List.mem_singleton] at hmem
    rcases hmem with ⟨id', -, rfl⟩ | rfl <;> exact ⟨rfl, rfl⟩

lemma mem_of_lookup {id : ℕ} {flag : Bool} (h : s.pendingNavigations.lookup id = some flag) :
    id ∈ s.pendingNavigations := by
  rw [← AList.lookup_isSome, h]
  rfl

/-- The navigation that comes last is pending. -/
lemma EndsAll.exists_flag (h : EndsAll s (handles ++ [handle])) :
    ∃ flag, s.pendingNavigations.lookup handle.id = some flag := by
  have hkey : handle.id ∈ s.pendingNavigations.keys := h.1.subset (by simp)
  exact Option.isSome_iff_exists.mp (AList.lookup_isSome.mpr (AList.mem_keys.mpr hkey))

/-- A reload is scheduled when the navigation that comes last is suppressed. -/
lemma EndsAll.timer_of_suppressed (h : EndsAll s (handles ++ [handle]))
    (hinfo : s.currentReloadableErrorPageInfo.isSome = true) (honline : s.isOnline = true)
    (hvisible : s.isWebContentsVisible = true)
    (hflag : s.pendingNavigations.lookup handle.id = some true) :
    (s.finishAll net (handles ++ [handle])).nextReloadTimer.isSome = true := by
  rw [finishAll_eq h hinfo, hflag]
  simp only [beq_self_eq_true, if_true]
  rw [timer_scheduleNextAutoReload]
  exacts [rfl, honline, hvisible]

/-- **The order does not matter** exactly when the pending navigations are all suppressed, or none
of them is. -/
theorem finishOrderFree_iff (hreach : Reachable net s)
    (hinfo : s.currentReloadableErrorPageInfo.isSome = true) (honline : s.isOnline = true)
    (hvisible : s.isWebContentsVisible = true) :
    FinishOrderFree net s ↔ ∀ id id' flag flag', s.pendingNavigations.lookup id = some flag →
      s.pendingNavigations.lookup id' = some flag' → flag = flag' := by
  have hkept := timerKept_of_reachable hreach
  constructor
  · rintro ⟨hfree, -⟩ id id' flag flag' hid hid'
    by_contra hne
    -- one of them is suppressed and one is not
    have hmixed : ∀ {id id'}, s.pendingNavigations.lookup id = some true →
        s.pendingNavigations.lookup id' = some false → False := by
      intro id id' htrue hfalse
      obtain ⟨handles, hends⟩ := exists_endsAll_last (mem_of_lookup htrue)
      obtain ⟨handles', hends'⟩ := exists_endsAll_last (mem_of_lookup hfalse)
      have hsame := congrArg Prod.fst (hfree _ _ hends hends')
      have htimer : (s.finishAll net (handles ++ [uncommitted id])).nextReloadTimer.isSome = true :=
        hends.timer_of_suppressed hinfo honline hvisible htrue
      have hnone : (s.finishAll net (handles' ++ [uncommitted id'])).nextReloadTimer = none := by
        have hflag : s.pendingNavigations.lookup (uncommitted id').id = some false := hfalse
        rw [finishAll_eq hends' hinfo, hflag]
        exact hkept.timer_of_mem (mem_of_lookup hfalse)
      have hsame : (s.finishAll net (handles ++ [uncommitted id])).nextReloadTimer = none :=
        hsame.trans hnone
      rw [hsame] at htimer
      cases htimer
    cases flag <;> cases flag'
    · exact hne rfl
    · exact hmixed hid' hid
    · exact hmixed hid hid'
    · exact hne rfl
  · intro hflags
    refine ⟨fun handles handles' hends hends' => ?_, fun handles hends ⟨id, hid⟩ => ?_⟩
    · rcases List.eq_nil_or_concat handles with rfl | ⟨front, handle, rfl⟩
      · rw [hends'.noPending_iff.mp (hends.noPending_iff.mpr rfl)]
      · rcases List.eq_nil_or_concat handles' with rfl | ⟨front', handle', rfl⟩
        · have hnil := hends.noPending_iff.mp (hends'.noPending_iff.mpr rfl)
          simp at hnil
        · rw [List.concat_eq_append] at hends hends' ⊢
          rw [List.concat_eq_append]
          obtain ⟨flag, hflag⟩ := hends.exists_flag
          obtain ⟨flag', hflag'⟩ := hends'.exists_flag
          rw [finishAll_eq hends hinfo, finishAll_eq hends' hinfo, hflag, hflag',
            hflags _ _ _ _ hflag hflag']
    · rcases List.eq_nil_or_concat handles with rfl | ⟨front, handle, rfl⟩
      · have hnone := hends.noPending_iff.mpr rfl
        rw [noPending_eq_false_of_mem (mem_of_lookup hid)] at hnone
        cases hnone
      · rw [List.concat_eq_append] at hends ⊢
        obtain ⟨flag, hflag⟩ := hends.exists_flag
        exact hends.timer_of_suppressed hinfo honline hvisible (hflags _ _ _ _ hid hflag ▸ hflag)

/-- A page that failed to load is reloaded, the reload fails again and is suppressed. -/
def suppressedReload : List Label :=
  [.didStartNavigation (failedNavigation 0 .none), .didFinishNavigation (failedNavigation 0 .none),
    .timerFires, .didStartNavigation (uncommitted 1),
    .suppress { uncommitted 1 with netErrorCode := .other 0 }]

/-- Another navigation to the page starts meanwhile and is suppressed, too. -/
theorem finishOrderFree_suppressed : ∃ s : NetErrorAutoReloader,
    s.pendingNavigations.entries = [⟨2, true⟩, ⟨1, true⟩] ∧ FinishOrderFree plainErrors s := by
  have hrun : Reachable plainErrors _ := ⟨.visible,
    run_of_foldlM (suppressedReload ++ [.didStartNavigation (uncommitted 2),
      .suppress { uncommitted 2 with netErrorCode := .other 0 }]) rfl⟩
  refine ⟨_, rfl, (finishOrderFree_iff hrun rfl rfl rfl).mpr fun id id' flag flag' h h' => ?_⟩
  have hmarked : ∀ entry ∈ [(⟨2, true⟩ : (_ : ℕ) × Bool), ⟨1, true⟩], entry.2 = true := by
    decide
  have hflag : flag = true := hmarked _ (AList.mem_lookup_iff.mp h)
  have hflag' : flag' = true := hmarked _ (AList.mem_lookup_iff.mp h')
  rw [hflag, hflag']

/-- Another navigation is started and ends after the suppressed reload: no reload is scheduled. -/
theorem finishOrder_lost : ¬ ∀ s : NetErrorAutoReloader, Reachable plainErrors s →
    s.currentReloadableErrorPageInfo.isSome = true → s.isOnline = true →
      s.isWebContentsVisible = true → FinishOrderFree plainErrors s := by
  intro h
  have hrun : Reachable plainErrors _ := ⟨.visible,
    run_of_foldlM (suppressedReload ++ [.didStartNavigation (uncommitted 2)]) rfl⟩
  have hends := (h _ hrun rfl rfl rfl).2 [uncommitted 1, uncommitted 2]
    ⟨List.Perm.swap .., by decide⟩ ⟨1, by decide⟩
  exact absurd hends (by decide)

end NetErrorAutoReloader

end TorOnion
