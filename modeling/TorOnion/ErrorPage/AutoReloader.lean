import TorOnion.Library.Runs
import Mathlib

/-!
# Reloading error pages: `error_loader.cpp`

`NetErrorAutoReloader`, which reloads a page that failed to load after longer and longer delays,
with its handlers as the source computes them and a step function for the events that call them.

A navigation handle is known by a number; `pending_navigations_` maps it to whether its error page
was suppressed.  A one-shot timer stays in `next_reload_timer_` when it has fired.  The visibility
of the tab belongs to the state, since it changes just when `OnVisibilityChanged` is called.  The
reload that `ReloadMainFrame` asks for starts with a later event.

What a run has done is kept in a log: the assertions that were checked with their outcome, the
resets, the delays of the timers that were started, and the reloads.  The throttle that calls
`ShouldSuppressErrorPage` is left out, so that any navigation that is pending may be suppressed.
-/

namespace TorOnion

/-! ## Navigations -/

/-- The errors of the network stack that the handlers name, and the others. -/
inductive NetError
  | ok
  | unknownUrlScheme
  | sslProtocolError
  | invalidAuthCredentials
  | httpResponseCodeFailure
  | blockedByLocalNetworkAccessChecks
  | networkAccessRevoked
  | other (code : ℤ)
  deriving DecidableEq

/-- The classes of errors that the network stack tells apart. -/
structure NetErrorClasses where
  isCertificateError : NetError → Bool
  isClientCertificateError : NetError → Bool
  isRequestBlockedError : NetError → Bool

inductive ReloadType
  | none
  | normal
  | bypassingCache
  deriving DecidableEq

inductive Visibility
  | hidden
  | occluded
  | visible
  deriving DecidableEq

/-- What the handlers ask a `NavigationHandle` for.  Of a URL only equality and the scheme
matter. -/
structure NavigationHandle where
  id : ℕ
  isInPrimaryMainFrame : Bool := true
  hasCommitted : Bool := false
  isErrorPage : Bool := false
  isPost : Bool := false
  netErrorCode : NetError := .ok
  reloadType : ReloadType := .none
  url : ℕ := 0
  schemeIsHTTPOrHTTPS : Bool := true
  isSecureNetworkError : Bool := false
  deriving DecidableEq

/-- `ShouldAutoReload`, behind its assertion. -/
def shouldAutoReload (net : NetErrorClasses) (handle : NavigationHandle) : Bool :=
  handle.isErrorPage && handle.netErrorCode != .ok && !handle.isPost &&
    handle.netErrorCode != .unknownUrlScheme &&
    !net.isCertificateError handle.netErrorCode &&
    !net.isClientCertificateError handle.netErrorCode &&
    handle.netErrorCode != .sslProtocolError &&
    !net.isRequestBlockedError handle.netErrorCode &&
    handle.netErrorCode != .invalidAuthCredentials &&
    handle.schemeIsHTTPOrHTTPS &&
    !handle.isSecureNetworkError &&
    handle.netErrorCode != .httpResponseCodeFailure &&
    handle.netErrorCode != .blockedByLocalNetworkAccessChecks &&
    handle.netErrorCode != .networkAccessRevoked

/-- The delays in seconds. -/
def delays : List ℕ := [1, 5, 30, 60, 300, 600, 1800]

/-- `GetNextReloadDelay`. -/
def getNextReloadDelay (reloadCount : ℕ) : ℕ :=
  delays.getD (min reloadCount (delays.length - 1)) 0

/-- The delay is the entry of the table for the count, and the last entry for all larger ones. -/
lemma getElem?_delays (reloadCount : ℕ) :
    delays[min reloadCount (delays.length - 1)]? = some (getNextReloadDelay reloadCount) := by
  have hlt : min reloadCount (delays.length - 1) < delays.length :=
    (Nat.min_le_right _ _).trans_lt (by decide)
  rw [getNextReloadDelay, List.getD_eq_getElem _ _ hlt, List.getElem?_eq_getElem hlt]

/-! ## The state -/

/-- `ErrorPageInfo`. -/
structure ErrorPageInfo where
  url : ℕ
  error : NetError
  deriving DecidableEq

/-- A `OneShotTimer` with the delay it was started with. -/
structure OneShotTimer where
  delay : ℕ
  isRunning : Bool
  deriving DecidableEq

/-- What the reloader has done. -/
inductive ReloaderEvent
  | dcheck (holds : Bool)
  | reset
  | scheduled (delay : ℕ)
  | reload
  deriving DecidableEq

structure NetErrorAutoReloader where
  pendingNavigations : AList fun _ : ℕ => Bool := ∅
  nextReloadTimer : Option OneShotTimer := none
  numReloadsForCurrentError : ℕ := 0
  isAutoReloadInProgress : Bool := false
  currentReloadableErrorPageInfo : Option ErrorPageInfo := none
  isOnline : Bool := true
  visibility : Visibility
  log : List ReloaderEvent := []

namespace NetErrorAutoReloader

/-- The reloads since the last reset. -/
def reloadsSinceReset : List ReloaderEvent → ℕ :=
  List.foldl (fun n event => match event with
    | .reset => 0
    | .reload => n + 1
    | _ => n) 0

/-- `DCHECK`. -/
def dcheck (holds : Bool) (s : NetErrorAutoReloader) : NetErrorAutoReloader :=
  { s with log := s.log ++ [.dcheck holds] }

/-! ## Its functions -/

/-- `pending_navigations_.empty()`. -/
def noPending (s : NetErrorAutoReloader) : Bool := s.pendingNavigations.keys.isEmpty

def isWebContentsVisible (s : NetErrorAutoReloader) : Bool := s.visibility != .hidden

def reset (s : NetErrorAutoReloader) : NetErrorAutoReloader :=
  { s with
    nextReloadTimer := none
    numReloadsForCurrentError := 0
    isAutoReloadInProgress := false
    currentReloadableErrorPageInfo := none
    log := s.log ++ [.reset] }

def pauseAutoReloadTimerIfRunning (s : NetErrorAutoReloader) : NetErrorAutoReloader :=
  { s with nextReloadTimer := none }

def scheduleNextAutoReload (s : NetErrorAutoReloader) : NetErrorAutoReloader :=
  let s := s.dcheck s.currentReloadableErrorPageInfo.isSome
  if !s.isOnline || !s.isWebContentsVisible then s
  else
    let delay := getNextReloadDelay s.numReloadsForCurrentError
    { s with nextReloadTimer := some ⟨delay, true⟩, log := s.log ++ [.scheduled delay] }

def resumeAutoReloadIfPaused (s : NetErrorAutoReloader) : NetErrorAutoReloader :=
  if s.currentReloadableErrorPageInfo.isSome && s.nextReloadTimer.isNone then
    s.scheduleNextAutoReload
  else s

def reloadMainFrame (s : NetErrorAutoReloader) : NetErrorAutoReloader :=
  let s := s.dcheck s.currentReloadableErrorPageInfo.isSome
  if !s.isOnline || !s.isWebContentsVisible then s
  else
    { s with
      numReloadsForCurrentError := s.numReloadsForCurrentError + 1
      isAutoReloadInProgress := true
      log := s.log ++ [.reload] }

/-- `pending_navigations_.emplace`: an entry that is there stays. -/
def emplacePending (id : ℕ) (s : NetErrorAutoReloader) : NetErrorAutoReloader :=
  if id ∈ s.pendingNavigations then s
  else { s with pendingNavigations := s.pendingNavigations.insert id false }

def erasePending (id : ℕ) (s : NetErrorAutoReloader) : NetErrorAutoReloader :=
  { s with pendingNavigations := s.pendingNavigations.erase id }

def didStartNavigation (handle : NavigationHandle) (s : NetErrorAutoReloader) :
    NetErrorAutoReloader :=
  if !handle.isInPrimaryMainFrame then s
  else s.pauseAutoReloadTimerIfRunning.emplacePending handle.id

/-- `DidFinishNavigation` of a navigation that did not commit. -/
def didNotCommit (isSuppressedErrorPage : Bool) (s : NetErrorAutoReloader) :
    NetErrorAutoReloader :=
  if !s.noPending || s.currentReloadableErrorPageInfo.isNone then s
  else
    let s := { s with isAutoReloadInProgress := false }
    if isSuppressedErrorPage then s.scheduleNextAutoReload else s

/-- `DidFinishNavigation` of a navigation that committed. -/
def didCommit (net : NetErrorClasses) (handle : NavigationHandle) (s : NetErrorAutoReloader) :
    NetErrorAutoReloader :=
  let s := s.dcheck handle.hasCommitted
  if !shouldAutoReload net handle then s.reset
  else
    let isSameError := handle.reloadType ≠ .none ∧
      s.currentReloadableErrorPageInfo.map ErrorPageInfo.error = some handle.netErrorCode
    let s := if isSameError then s
      else
        let s := s.reset
        { s with currentReloadableErrorPageInfo := some ⟨handle.url, handle.netErrorCode⟩ }
    if s.noPending then s.scheduleNextAutoReload else s

def didFinishNavigation (net : NetErrorClasses) (handle : NavigationHandle)
    (s : NetErrorAutoReloader) : NetErrorAutoReloader :=
  if !handle.isInPrimaryMainFrame then s
  else
    let isSuppressedErrorPage := s.pendingNavigations.lookup handle.id == some true
    let s := s.erasePending handle.id
    if !handle.hasCommitted then s.didNotCommit isSuppressedErrorPage
    else s.didCommit net handle

def navigationStopped (s : NetErrorAutoReloader) : NetErrorAutoReloader := s.reset

/-- `OnVisibilityChanged`, as the visibility changes. -/
def onVisibilityChanged (visibility : Visibility) (s : NetErrorAutoReloader) :
    NetErrorAutoReloader :=
  let s := { s with visibility := visibility }
  if !s.isWebContentsVisible then s.pauseAutoReloadTimerIfRunning
  else if s.noPending then s.resumeAutoReloadIfPaused
  else s

/-- `OnConnectionChanged`; the type of the connection may be none. -/
def onConnectionChanged (connected : Bool) (s : NetErrorAutoReloader) : NetErrorAutoReloader :=
  let s := { s with isOnline := connected }
  if !s.isOnline then s.pauseAutoReloadTimerIfRunning
  else if s.noPending then s.resumeAutoReloadIfPaused
  else s

/-- `ShouldSuppressErrorPage`. -/
def shouldSuppressErrorPage (handle : NavigationHandle) (s : NetErrorAutoReloader) :
    Bool × NetErrorAutoReloader :=
  let s := s.dcheck (decide (handle.id ∈ s.pendingNavigations))
  match s.currentReloadableErrorPageInfo with
  | none => (false, s)
  | some info =>
      if info.url ≠ handle.url ∨ info.error ≠ handle.netErrorCode then (false, s)
      else
        (true, { s with pendingNavigations := s.pendingNavigations.insert handle.id true })

/-! ## Steps -/

/-- The events of a run. -/
inductive Label
  | didStartNavigation (handle : NavigationHandle)
  | didFinishNavigation (handle : NavigationHandle)
  | navigationStopped
  | visibilityChanged (visibility : Visibility)
  | connectionChanged (connected : Bool)
  | suppress (handle : NavigationHandle)
  | timerFires

/-- One step.  Only a pending navigation is suppressed, and only a running timer fires. -/
def step (net : NetErrorClasses) (s : NetErrorAutoReloader) :
    Label → Option NetErrorAutoReloader
  | .didStartNavigation handle => some (s.didStartNavigation handle)
  | .didFinishNavigation handle => some (s.didFinishNavigation net handle)
  | .navigationStopped => some s.navigationStopped
  | .visibilityChanged visibility => some (s.onVisibilityChanged visibility)
  | .connectionChanged connected => some (s.onConnectionChanged connected)
  | .suppress handle =>
      if handle.id ∈ s.pendingNavigations then some (s.shouldSuppressErrorPage handle).2 else none
  | .timerFires =>
      match s.nextReloadTimer with
      | none => none
      | some timer =>
          if timer.isRunning then
            some { s with nextReloadTimer := some { timer with isRunning := false }
              }.reloadMainFrame
          else none

/-- The reloaders that runs arrive at. -/
def Reachable (net : NetErrorClasses) (s : NetErrorAutoReloader) : Prop :=
  ∃ visibility, Relation.ReflTransGen (fun s s' => ∃ label, step net s label = some s')
    { visibility := visibility } s

end NetErrorAutoReloader

end TorOnion
