import TorOnion.Library.Runs
import TorOnion.Paint.FrameReady

/-!
# Answers: `networking/common/this_paint.rs`, runs of `Paint`

Threads of scripts and of fonts wait for the keys that they have asked for, also while the program
shuts down.  A run of `Paint` is any sequence of batches, of changes of the registry, of calls of
the embedder, and of changes that the rest of the program makes to the shutdown state.  In every
run the answers are answers to requests of the batches, in the same order and each to one request
(`answered_paintStep`); and as long as no batch begins or ends with the shutdown finished, every
request for keys has its answer, with as many keys as it asked for (`key_requests_answered`).

The methods of `Painter` that only the embedder's calls use are `EmbedderFns`.  The calls that read
without changing anything are left out, and so is `capture_webrender`.
-/

namespace TorOnion

/-- Who waits for an answer, and for how many keys. -/
inductive PaintRequest (T : PaintTypes)
  | report (sender : T.ReportsChan)
  | imageKey (resultSender : T.ImageKeySender)
  | imageKeysForPipeline (pipelineId : T.PipelineId) (imageKeys : ℕ)
  | fontKeys (resultSender : T.FontKeysSender) (fontKeys fontInstanceKeys : ℕ)

/-- Keys are asked for. -/
def PaintRequest.forKeys {T : PaintTypes} : PaintRequest T → Bool
  | .report _ => false
  | _ => true

/-- The request that is answered. -/
def Sent.request {T : PaintTypes} : Sent T → PaintRequest T
  | .processReports sender _ => .report sender
  | .imageKey resultSender _ => .imageKey resultSender
  | .sendImageKeysForPipeline pipelineId imageKeys =>
      .imageKeysForPipeline pipelineId imageKeys.length
  | .fontKeys resultSender keys instanceKeys =>
      .fontKeys resultSender keys.length instanceKeys.length

/-- The request that a message makes. -/
def PaintMessage.request? {T : PaintTypes} (fns : PaintFns T) :
    PaintMessage T → Option (PaintRequest T)
  | .collectMemoryReport sender => some (.report sender)
  | .generateImageKey _ resultSender => some (.imageKey resultSender)
  | .generateImageKeysForPipeline _ pipelineId =>
      some (.imageKeysForPipeline pipelineId fns.imageKeyBatchSize.toNat)
  | .generateFontKeys numberOfFontKeys numberOfFontInstanceKeys resultSender _ =>
      some (.fontKeys resultSender numberOfFontKeys numberOfFontInstanceKeys)
  | _ => none

/-- The methods of `Painter` that the embedder's calls use, and the types of their arguments. -/
structure EmbedderFns (T : PaintTypes) where
  (ScaleFactor PhysicalSize PageZoom WebRenderDebugOption InputEventAndId Scroll WebViewPoint : Type)
  (PinchZoomDelta DevicePoint WebViewRect ScreenshotCallback InputEventId InputEventResult : Type)
  /-- Whether the webview is known, and what becomes of the painter and the world. -/
  setWebviewHidden : T.WebViewId → Bool → T.PainterState → T.World →
    Bool × T.PainterState × T.World
  setHidpiScaleFactor : T.WebViewId → ScaleFactor → T.PainterState → T.World →
    T.PainterState × T.World
  resizeRenderingContext : PhysicalSize → T.PainterState → T.World → T.PainterState × T.World
  setPageZoom : T.WebViewId → PageZoom → T.PainterState → T.World → T.PainterState × T.World
  render : T.PainterState → T.World → T.PainterState × T.World
  performUpdates : T.PainterState → T.World → T.PainterState × T.World
  toggleWebrenderDebug : WebRenderDebugOption → T.PainterState → T.World →
    T.PainterState × T.World
  notifyInputEvent : T.WebViewId → InputEventAndId → T.PainterState → T.World →
    Bool × T.PainterState × T.World
  notifyScrollEvent : T.WebViewId → Scroll → WebViewPoint → T.PainterState → T.World →
    T.PainterState × T.World
  adjustPinchZoom : T.WebViewId → PinchZoomDelta → DevicePoint → T.PainterState → T.World →
    T.PainterState × T.World
  requestScreenshot : T.WebViewId → Option WebViewRect → ScreenshotCallback → T.PainterState →
    T.World → T.PainterState × T.World
  notifyInputEventHandled : T.WebViewId → InputEventId → InputEventResult → T.PainterState →
    T.World → T.PainterState × T.World

namespace Paint

variable {T : PaintTypes} (fns : PaintFns T) (efns : EmbedderFns T)

/-! ## The calls of the embedder -/

section Embedder

variable (s : Paint T) (webviewId : T.WebViewId)

/-- A method is called on `painter_mut`, which panics when there is no such painter. -/
def callPainterMut {ρ : Type} (method : T.PainterState → T.World → ρ × T.PainterState × T.World) :
    Option (ρ × Paint T) :=
  let painterId := fns.painterIdOf webviewId
  (s.maybePainter painterId).map fun painter =>
    let (result, state, world) := method painter.state s.world
    (result, setWorld world (modifyPainter painterId (fun _ => state) s))

/-- A method without a result. -/
def callPainterMut' (method : T.PainterState → T.World → T.PainterState × T.World) :
    Option (Paint T) :=
  (callPainterMut fns s webviewId fun state world => ((), method state world)).map Prod.snd

/-- A call that does nothing once shutting down has begun. -/
def whileRunning (call : Option (Paint T)) : Option (Paint T) :=
  if fns.shutdownState s.world ≠ .notShuttingDown then some s else call

/-- A method is called on one painter after the other. -/
def callPainters (method : T.PainterState → T.World → T.PainterState × T.World) : Paint T :=
  s.painters.foldl (fun s painter =>
    let (state, world) := method painter.state s.world
    { s with painters := s.painters ++ [{ painter with state }], world }) { s with painters := [] }

def showWebview : Option (Bool × Paint T) :=
  callPainterMut fns s webviewId (efns.setWebviewHidden webviewId false)

def hideWebview : Option (Bool × Paint T) :=
  callPainterMut fns s webviewId (efns.setWebviewHidden webviewId true)

def setHidpiScaleFactor (newScaleFactor : efns.ScaleFactor) : Option (Paint T) :=
  whileRunning fns s
    (callPainterMut' fns s webviewId (efns.setHidpiScaleFactor webviewId newScaleFactor))

def resizeRenderingContext (newSize : efns.PhysicalSize) : Option (Paint T) :=
  whileRunning fns s (callPainterMut' fns s webviewId (efns.resizeRenderingContext newSize))

def setPageZoom (newZoom : efns.PageZoom) : Option (Paint T) :=
  whileRunning fns s (callPainterMut' fns s webviewId (efns.setPageZoom webviewId newZoom))

def render : Option (Paint T) := callPainterMut' fns s webviewId efns.render

/-- `perform_updates`, without `webxr`. -/
def performUpdates : Bool × Paint T :=
  if fns.shutdownState s.world = .finishedShuttingDown then (false, s)
  else
    let s := s.callPainters efns.performUpdates
    (fns.shutdownState s.world ≠ .finishedShuttingDown, s)

def toggleWebrenderDebug (option : efns.WebRenderDebugOption) : Paint T :=
  s.callPainters (efns.toggleWebrenderDebug option)

def notifyInputEvent (event : efns.InputEventAndId) : Option (Bool × Paint T) :=
  if fns.shutdownState s.world ≠ .notShuttingDown then some (false, s)
  else callPainterMut fns s webviewId (efns.notifyInputEvent webviewId event)

def notifyScrollEvent (scroll : efns.Scroll) (point : efns.WebViewPoint) : Option (Paint T) :=
  whileRunning fns s
    (callPainterMut' fns s webviewId (efns.notifyScrollEvent webviewId scroll point))

def adjustPinchZoom (pinchZoomDelta : efns.PinchZoomDelta) (center : efns.DevicePoint) :
    Option (Paint T) :=
  whileRunning fns s
    (callPainterMut' fns s webviewId (efns.adjustPinchZoom webviewId pinchZoomDelta center))

def requestScreenshot (rect : Option efns.WebViewRect) (callback : efns.ScreenshotCallback) :
    Option (Paint T) :=
  callPainterMut' fns s webviewId (efns.requestScreenshot webviewId rect callback)

/-- `notify_input_event_handled`, which `maybe_painter_mut` lets pass when there is no painter. -/
def notifyInputEventHandled (inputEventId : efns.InputEventId) (result : efns.InputEventResult) :
    Paint T :=
  (callPainterMut' fns s webviewId
    (efns.notifyInputEventHandled webviewId inputEventId result)).getD s

end Embedder

/-! ## Steps -/

/-- A call of the embedder. -/
inductive EmbedderOp
  | showWebview (webviewId : T.WebViewId)
  | hideWebview (webviewId : T.WebViewId)
  | setHidpiScaleFactor (webviewId : T.WebViewId) (newScaleFactor : efns.ScaleFactor)
  | resizeRenderingContext (webviewId : T.WebViewId) (newSize : efns.PhysicalSize)
  | setPageZoom (webviewId : T.WebViewId) (newZoom : efns.PageZoom)
  | render (webviewId : T.WebViewId)
  | performUpdates
  | toggleWebrenderDebug (option : efns.WebRenderDebugOption)
  | notifyInputEvent (webviewId : T.WebViewId) (event : efns.InputEventAndId)
  | notifyScrollEvent (webviewId : T.WebViewId) (scroll : efns.Scroll) (point : efns.WebViewPoint)
  | adjustPinchZoom (webviewId : T.WebViewId) (pinchZoomDelta : efns.PinchZoomDelta)
      (center : efns.DevicePoint)
  | requestScreenshot (webviewId : T.WebViewId) (rect : Option efns.WebViewRect)
      (callback : efns.ScreenshotCallback)
  | notifyInputEventHandled (webviewId : T.WebViewId) (inputEventId : efns.InputEventId)
      (result : efns.InputEventResult)

def embedderStep (s : Paint T) : EmbedderOp efns → Option (Paint T)
  | .showWebview webviewId => (showWebview fns efns s webviewId).map Prod.snd
  | .hideWebview webviewId => (hideWebview fns efns s webviewId).map Prod.snd
  | .setHidpiScaleFactor webviewId newScaleFactor =>
      setHidpiScaleFactor fns efns s webviewId newScaleFactor
  | .resizeRenderingContext webviewId newSize =>
      resizeRenderingContext fns efns s webviewId newSize
  | .setPageZoom webviewId newZoom => setPageZoom fns efns s webviewId newZoom
  | .render webviewId => render fns efns s webviewId
  | .performUpdates => some (performUpdates fns efns s).2
  | .toggleWebrenderDebug option => some (toggleWebrenderDebug efns s option)
  | .notifyInputEvent webviewId event =>
      (notifyInputEvent fns efns s webviewId event).map Prod.snd
  | .notifyScrollEvent webviewId scroll point =>
      notifyScrollEvent fns efns s webviewId scroll point
  | .adjustPinchZoom webviewId pinchZoomDelta center =>
      adjustPinchZoom fns efns s webviewId pinchZoomDelta center
  | .requestScreenshot webviewId rect callback =>
      requestScreenshot fns efns s webviewId rect callback
  | .notifyInputEventHandled webviewId inputEventId result =>
      some (notifyInputEventHandled fns efns s webviewId inputEventId result)

inductive PaintOp
  | registry (op : RegistryOp T)
  | handleMessages (hash : IterationOrder T.PainterId Bool) (messages : List (PaintMessage T))
  | embedder (op : EmbedderOp efns)
  /-- The rest of the program acts. -/
  | elsewhere (world : T.World)

/-- One call.  There is no result where the call panics. -/
def paintStep (s : Paint T) : PaintOp efns → Option (Paint T)
  | .registry op => registryStep fns s op
  | .handleMessages hash messages => handleMessages fns hash s messages
  | .embedder op => embedderStep fns efns s op
  | .elsewhere world => some (setWorld world s)

variable {efns}

/-! ## Answers -/

/-- The requests that have been answered, in order. -/
def answered (s : Paint T) : List (PaintRequest T) := s.sent.map Sent.request

/-- The requests of the batches, in order. -/
def requests (ops : List (PaintOp efns)) : List (PaintRequest T) :=
  ops.flatMap fun
    | .handleMessages _ messages => messages.filterMap (PaintMessage.request? fns)
    | _ => []

/-- A batch neither begins nor ends with the shutdown finished. -/
def BatchUnfinished (s : Paint T) : PaintOp efns → Paint T → Prop
  | .handleMessages _ _, s' =>
      fns.shutdownState s.world ≠ .finishedShuttingDown ∧
        fns.shutdownState s'.world ≠ .finishedShuttingDown
  | _, _ => True

variable {fns} {s s' : Paint T} {message : PaintMessage T} {messages : List (PaintMessage T)}
  {webviewId : T.WebViewId} {painterId : T.PainterId}

@[simp]
lemma answered_modifyPainter (h : T.PainterState → T.PainterState) :
    (modifyPainter painterId h s).answered = s.answered := rfl

@[simp]
lemma answered_callPainter (call : PainterCall T) :
    (callPainter fns painterId call s).answered = s.answered := by
  rw [callPainter]
  split <;> rfl

lemma answered_foldl_callPainter (call : PainterCall T) (ids : List T.PainterId) :
    (ids.foldl (fun s id => callPainter fns id call s) s).answered = s.answered := by
  induction ids generalizing s with
  | nil => rfl
  | cons id ids ih => rw [List.foldl_cons, ih, answered_callPainter]

lemma answered_send (sent : Sent T) : (send sent s).answered = s.answered ++ [sent.request] :=
  List.map_append

lemma length_generateKeys {Key : Type} (generate : T.PainterState → Key × T.PainterState) (n : ℕ)
    (state : T.PainterState) : (generateKeys generate n state).1.length = n := by
  induction n generalizing state with
  | zero => rfl
  | succ n ih => rw [generateKeys, List.length_cons, ih]

/-- As many keys as are asked for, whether or not the painter is there. -/
lemma keysFor_spec {Key : Type} (generate : T.PainterState → Key × T.PainterState)
    (dummy : T.PainterId → ℕ → Key) (n : ℕ) (painterId : T.PainterId) (s : Paint T) :
    (keysFor generate dummy n painterId s).1.length = n ∧
      (keysFor generate dummy n painterId s).2.answered = s.answered := by
  rw [keysFor]
  split
  · exact ⟨List.length_replicate, rfl⟩
  · exact ⟨length_generateKeys generate n _, rfl⟩

lemma answered_handleGenerateImageKey (resultSender : T.ImageKeySender) :
    (handleGenerateImageKey fns s webviewId resultSender).answered =
      s.answered ++ [.imageKey resultSender] := by
  rw [handleGenerateImageKey]
  split <;> exact answered_send _

lemma answered_handleGenerateImageKeysForPipeline (pipelineId : T.PipelineId) :
    (handleGenerateImageKeysForPipeline fns s webviewId pipelineId).answered =
      s.answered ++ [.imageKeysForPipeline pipelineId fns.imageKeyBatchSize.toNat] := by
  obtain ⟨hlength, hanswered⟩ := keysFor_spec fns.generateImageKey fns.imageKey
    fns.imageKeyBatchSize.toNat (fns.painterIdOf webviewId) s
  rw [handleGenerateImageKeysForPipeline, answered_send, hanswered, Sent.request, hlength]

lemma answered_handleGenerateFontKeys (n m : ℕ) (resultSender : T.FontKeysSender) :
    (handleGenerateFontKeys fns s n m resultSender painterId).answered =
      s.answered ++ [.fontKeys resultSender n m] := by
  obtain ⟨hlength, hanswered⟩ := keysFor_spec fns.generateFontKey fns.fontKey n painterId s
  obtain ⟨hlength', hanswered'⟩ := keysFor_spec fns.generateFontInstanceKey
    fns.fontInstanceKey m painterId (keysFor fns.generateFontKey fns.fontKey n painterId s).2
  rw [handleGenerateFontKeys, answered_send, hanswered', hanswered, Sent.request, hlength, hlength']

variable (fns) in
/-- What is answered of a message, in a shutdown state. -/
def answersIn (state : ShutdownState) (message : PaintMessage T) : List (PaintRequest T) :=
  match state with
  | .notShuttingDown => (message.request? fns).toList
  | .shuttingDown => (message.request? fns).toList.filter PaintRequest.forKeys
  | .finishedShuttingDown => []

lemma answered_handleBrowserMessageRunning
    (h : handleBrowserMessageRunning fns s message = some s') :
    s'.answered = s.answered ++ (message.request? fns).toList := by
  cases message with
  | newWebRenderFrameReady => cases h
  | collectMemoryReport sender =>
      obtain rfl := Option.some.inj h
      exact answered_send _
  | generateFrame ids =>
      obtain rfl := Option.some.inj h
      exact (answered_foldl_callPainter _ ids).trans (List.append_nil _).symm
  | generateImageKey =>
      obtain rfl := Option.some.inj h
      exact answered_handleGenerateImageKey _
  | generateImageKeysForPipeline =>
      obtain rfl := Option.some.inj h
      exact answered_handleGenerateImageKeysForPipeline _
  | generateFontKeys =>
      obtain rfl := Option.some.inj h
      exact answered_handleGenerateFontKeys _ _ _
  | _ =>
      obtain rfl := Option.some.inj h
      exact (answered_callPainter _).trans (List.append_nil _).symm

lemma answered_handleBrowserMessageWhileShuttingDown :
    (handleBrowserMessageWhileShuttingDown fns s message).answered =
      s.answered ++ (message.request? fns).toList.filter PaintRequest.forKeys := by
  cases message with
  | pipelineExited => exact (answered_callPainter _).trans (List.append_nil _).symm
  | generateImageKey => exact answered_handleGenerateImageKey _
  | generateImageKeysForPipeline => exact answered_handleGenerateImageKeysForPipeline _
  | generateFontKeys => exact answered_handleGenerateFontKeys _ _ _
  | _ => exact (List.append_nil _).symm

/-- The step lemma for messages. -/
lemma answered_handleBrowserMessage (h : handleBrowserMessage fns s message = some s') :
    s'.answered = s.answered ++ answersIn fns (fns.shutdownState s.world) message := by
  rw [handleBrowserMessage] at h
  cases hstate : fns.shutdownState s.world with
  | notShuttingDown =>
      rw [hstate] at h
      exact answered_handleBrowserMessageRunning h
  | shuttingDown =>
      rw [hstate] at h
      obtain rfl := Option.some.inj h
      exact answered_handleBrowserMessageWhileShuttingDown
  | finishedShuttingDown =>
      rw [hstate] at h
      obtain rfl := Option.some.inj h
      exact (List.append_nil _).symm

lemma answersIn_sublist (fns : PaintFns T) (state : ShutdownState) (message : PaintMessage T) :
    (answersIn fns state message).Sublist (message.request? fns).toList := by
  cases state with
  | notShuttingDown => exact .refl _
  | shuttingDown => exact List.filter_sublist
  | finishedShuttingDown => exact List.nil_sublist _

/-- Keys are handed out until shutting down is finished. -/
lemma filter_answersIn {state : ShutdownState} (h : state ≠ .finishedShuttingDown) :
    (answersIn fns state message).filter PaintRequest.forKeys =
      (message.request? fns).toList.filter PaintRequest.forKeys := by
  cases state with
  | notShuttingDown => rfl
  | shuttingDown => exact List.filter_filter.trans (List.filter_congr fun r _ => Bool.and_self _)
  | finishedShuttingDown => exact absurd rfl h

variable (fns) in
/-- The requests of a batch. -/
def batchRequests (messages : List (PaintMessage T)) : List (PaintRequest T) :=
  messages.filterMap (PaintMessage.request? fns)

lemma batchRequests_cons : batchRequests fns (message :: messages) =
    (message.request? fns).toList ++ batchRequests fns messages := by
  rw [batchRequests, List.filterMap_cons]
  cases message.request? fns <;> rfl

/-- What `handle_messages` answers of the messages that stay. -/
lemma answered_handleRetained {left : Bool}
    (h : handleRetained fns s messages = some (left, s')) :
    ∃ answers, s'.answered = s.answered ++ answers ∧
      answers.Sublist (batchRequests fns messages) ∧
      (left = true → fns.shutdownState s'.world = .finishedShuttingDown) ∧
      (left = false → fns.shutdownState s.world ≠ .finishedShuttingDown →
        answers.filter PaintRequest.forKeys =
          (batchRequests fns messages).filter PaintRequest.forKeys) ∧
      (fns.shutdownState s.world = .finishedShuttingDown → answers = []) := by
  induction messages generalizing s with
  | nil =>
      obtain ⟨rfl, rfl⟩ := Prod.ext_iff.mp (Option.some.inj h)
      exact ⟨[], (List.append_nil _).symm, .refl _, fun h => absurd h Bool.false_ne_true,
        fun _ _ => rfl, fun _ => rfl⟩
  | cons message messages ih =>
      rw [handleRetained] at h
      obtain ⟨mid, hstep, hrest⟩ := Option.bind_eq_some_iff.mp h
      have hmid := answered_handleBrowserMessage hstep
      have hsub := answersIn_sublist fns (fns.shutdownState s.world) message
      rw [batchRequests_cons]
      split at hrest
      next hfinished =>
        obtain ⟨rfl, rfl⟩ := Prod.ext_iff.mp (Option.some.inj hrest)
        refine ⟨_, hmid, hsub.trans (List.sublist_append_left _ _), fun _ => hfinished,
          fun h => absurd h.symm Bool.false_ne_true, ?_⟩
        intro hstate
        rw [hstate]
        rfl
      next hunfinished =>
        obtain ⟨answers, hanswers, hsub', hleft, hkeys, -⟩ := ih hrest
        refine ⟨_, ?_, hsub.append hsub', hleft, fun hnot hstate => ?_, fun hstate => ?_⟩
        · rw [hanswers, hmid, List.append_assoc]
        · rw [List.filter_append, List.filter_append, filter_answersIn hstate,
            hkeys hnot hunfinished]
        · -- a state that is final before the message is final after it
          rw [handleBrowserMessage, hstate] at hstep
          obtain rfl := Option.some.inj hstep
          exact absurd hstate hunfinished

lemma batchRequests_otherMessages :
    batchRequests fns (otherMessages messages) = batchRequests fns messages := by
  induction messages with
  | nil => rfl
  | cons message messages ih =>
      cases h : message.frameReady? with
      | none => rw [otherMessages_cons_of_none h, batchRequests_cons, batchRequests_cons, ih]
      | some frame =>
          have hrequest : message.request? fns = none := by
            cases message <;> first | rfl | cases h
          rw [otherMessages_cons_of_some h, batchRequests_cons, hrequest, ih]
          rfl

/-- What a batch answers. -/
lemma answered_handleMessages {hash : IterationOrder T.PainterId Bool}
    (h : handleMessages fns hash s messages = some s') :
    ∃ answers, s'.answered = s.answered ++ answers ∧
      answers.Sublist (batchRequests fns messages) ∧
      (fns.shutdownState s.world ≠ .finishedShuttingDown →
        fns.shutdownState s'.world ≠ .finishedShuttingDown →
        answers.filter PaintRequest.forKeys =
          (batchRequests fns messages).filter PaintRequest.forKeys) ∧
      (fns.shutdownState s.world = .finishedShuttingDown → answers = []) := by
  obtain ⟨hpaint, hmessages, -⟩ := foldl_retainMessage fns messages ⟨s, ∅, []⟩
  obtain ⟨⟨left, mid⟩, hretained, hrest⟩ := Option.bind_eq_some_iff.mp h
  rw [hpaint, hmessages, List.nil_append] at hretained
  obtain ⟨answers, hanswers, hsub, hleft, hkeys, hfinished⟩ := answered_handleRetained hretained
  rw [batchRequests_otherMessages] at hsub hkeys
  cases left with
  | true =>
      obtain rfl := Option.some.inj hrest
      exact ⟨answers, hanswers, hsub, fun _ hend => absurd (hleft rfl) hend, hfinished⟩
  | false =>
      have hnotify := Option.some.inj hrest
      rw [notifyPainters_eq_foldl] at hnotify
      subst hnotify
      exact ⟨answers, hanswers, hsub, fun hbegin _ => hkeys rfl hbegin, hfinished⟩

/-- A batch is never stopped by a panic. -/
lemma isSome_handleMessages (fns : PaintFns T) (hash : IterationOrder T.PainterId Bool)
    (s : Paint T) (messages : List (PaintMessage T)) :
    (handleMessages fns hash s messages).isSome := by
  obtain ⟨-, hmessages, -⟩ := foldl_retainMessage fns messages ⟨s, ∅, []⟩
  have hretained : ∀ s : Paint T, (handleRetained fns s (otherMessages messages)).isSome := by
    have hother : ∀ message ∈ otherMessages messages, message.frameReady? = none :=
      fun message hm => Option.isNone_iff_eq_none.mp (List.mem_filter.mp hm).2
    generalize otherMessages messages = others at hother
    induction others with
    | nil => exact fun s => rfl
    | cons message others ih =>
        intro s
        obtain ⟨mid, hstep⟩ := Option.isSome_iff_exists.mp
          (isSome_handleBrowserMessage fns s (hother message List.mem_cons_self))
        rw [handleRetained, hstep]
        show (ite _ _ _ : Option (Bool × Paint T)).isSome
        split
        · rfl
        · exact ih (fun other hm => hother other (List.mem_cons_of_mem _ hm)) mid
  obtain ⟨⟨left, mid⟩, hmid⟩ := Option.isSome_iff_exists.mp (hretained _)
  rw [handleMessages]
  simp only [hmessages, List.nil_append]
  rw [hmid]
  cases left <;> rfl

/-! ## The other calls answer nothing -/

lemma answered_callPainterMut {ρ : Type}
    {method : T.PainterState → T.World → ρ × T.PainterState × T.World} {result : ρ × Paint T}
    (h : callPainterMut fns s webviewId method = some result) :
    result.2.answered = s.answered := by
  obtain ⟨painter, -, rfl⟩ := Option.map_eq_some_iff.mp h
  rfl

lemma answered_callPainterMut' {method : T.PainterState → T.World → T.PainterState × T.World}
    (h : callPainterMut' fns s webviewId method = some s') : s'.answered = s.answered := by
  obtain ⟨result, hresult, rfl⟩ := Option.map_eq_some_iff.mp h
  exact answered_callPainterMut hresult

lemma answered_whileRunning {method : T.PainterState → T.World → T.PainterState × T.World}
    (h : whileRunning fns s (callPainterMut' fns s webviewId method) = some s') :
    s'.answered = s.answered := by
  rw [whileRunning] at h
  split at h
  · obtain rfl := Option.some.inj h
    rfl
  · exact answered_callPainterMut' h

lemma answered_callPainters (method : T.PainterState → T.World → T.PainterState × T.World) :
    (s.callPainters method).answered = s.answered := by
  have hfold : ∀ (painters : List (Painter T)) (s : Paint T),
      (painters.foldl (fun s painter =>
        let (state, world) := method painter.state s.world
        { s with painters := s.painters ++ [{ painter with state }], world }) s).answered =
        s.answered := by
    intro painters
    induction painters with
    | nil => exact fun s => rfl
    | cons painter painters ih => exact fun s => ih _
  exact hfold s.painters _

lemma answered_embedderStep {op : EmbedderOp efns} (h : embedderStep fns efns s op = some s') :
    s'.answered = s.answered := by
  cases op with
  | showWebview =>
      obtain ⟨result, hresult, rfl⟩ := Option.map_eq_some_iff.mp h
      exact answered_callPainterMut hresult
  | hideWebview =>
      obtain ⟨result, hresult, rfl⟩ := Option.map_eq_some_iff.mp h
      exact answered_callPainterMut hresult
  | setHidpiScaleFactor => exact answered_whileRunning h
  | resizeRenderingContext => exact answered_whileRunning h
  | setPageZoom => exact answered_whileRunning h
  | render => exact answered_callPainterMut' h
  | performUpdates =>
      obtain rfl := Option.some.inj h
      rw [performUpdates]
      split
      · rfl
      · exact answered_callPainters _
  | toggleWebrenderDebug =>
      obtain rfl := Option.some.inj h
      exact answered_callPainters _
  | notifyInputEvent =>
      obtain ⟨result, hresult, rfl⟩ := Option.map_eq_some_iff.mp h
      rw [notifyInputEvent] at hresult
      split at hresult
      · obtain rfl := Option.some.inj hresult
        rfl
      · exact answered_callPainterMut hresult
  | notifyScrollEvent => exact answered_whileRunning h
  | adjustPinchZoom => exact answered_whileRunning h
  | requestScreenshot => exact answered_callPainterMut' h
  | notifyInputEventHandled =>
      obtain rfl := Option.some.inj h
      rw [notifyInputEventHandled]
      cases hcall : callPainterMut' fns s _ _ with
      | none => rfl
      | some mid => exact answered_callPainterMut' hcall

lemma answered_registryStep {op : RegistryOp T} (h : registryStep fns s op = some s') :
    s'.answered = s.answered := by
  cases op with
  | registerRenderingContext =>
      obtain ⟨result, hresult, rfl⟩ := Option.map_eq_some_iff.mp h
      rw [registerRenderingContext] at hresult
      split at hresult
      · obtain rfl := Option.some.inj hresult
        rfl
      · obtain ⟨connection, -, hresult⟩ := Option.bind_eq_some_iff.mp hresult
        obtain ⟨adapter, -, hresult⟩ := Option.bind_eq_some_iff.mp hresult
        obtain rfl := Option.some.inj hresult
        rfl
  | addWebview =>
      obtain ⟨painter, -, rfl⟩ := Option.map_eq_some_iff.mp h
      exact answered_callPainter _
  | removeWebview =>
      obtain ⟨painter, -, rfl⟩ := removeWebview_eq_some h
      split <;> exact answered_callPainter (s := s) _

/-! ## Runs -/

lemma requests_cons (op : PaintOp efns) (ops : List (PaintOp efns)) :
    requests fns (op :: ops) = requests fns [op] ++ requests fns ops := by
  rw [requests, requests, requests, ← List.flatMap_append, List.singleton_append]

/-- The step lemma. -/
lemma answered_paintStep {op : PaintOp efns} (h : paintStep fns efns s op = some s') :
    ∃ answers, s'.answered = s.answered ++ answers ∧ answers.Sublist (requests fns [op]) ∧
      (BatchUnfinished fns s op s' → answers.filter PaintRequest.forKeys =
        (requests fns [op]).filter PaintRequest.forKeys) := by
  cases op with
  | registry op =>
      exact ⟨[], (answered_registryStep h).trans (List.append_nil _).symm, .refl _, fun _ => rfl⟩
  | handleMessages hash messages =>
      obtain ⟨answers, hanswers, hsub, hkeys, -⟩ := answered_handleMessages h
      have hrequests : requests fns ([.handleMessages hash messages] : List (PaintOp efns)) =
          batchRequests fns messages := List.append_nil _
      rw [hrequests]
      exact ⟨answers, hanswers, hsub, fun hunfinished => hkeys hunfinished.1 hunfinished.2⟩
  | embedder op =>
      exact ⟨[], (answered_embedderStep h).trans (List.append_nil _).symm, .refl _, fun _ => rfl⟩
  | elsewhere world =>
      obtain rfl := Option.some.inj h
      exact ⟨[], (List.append_nil _).symm, .refl _, fun _ => rfl⟩

/-- The run lemma. -/
lemma answered_of_run {ops : List (PaintOp efns)}
    (hrun : ops.foldlM (paintStep fns efns) s = some s') :
    ∃ answers, s'.answered = s.answered ++ answers ∧ answers.Sublist (requests fns ops) ∧
      (Along (paintStep fns efns) (BatchUnfinished fns) s ops →
        answers.filter PaintRequest.forKeys =
          (requests fns ops).filter PaintRequest.forKeys) := by
  induction ops generalizing s with
  | nil =>
      obtain rfl := Option.some.inj hrun
      exact ⟨[], (List.append_nil _).symm, .refl _, fun _ => rfl⟩
  | cons op ops ih =>
      rw [List.foldlM_cons] at hrun
      obtain ⟨mid, hstep, hrest⟩ := Option.bind_eq_some_iff.mp hrun
      obtain ⟨first, hfirst, hsub, hkeys⟩ := answered_paintStep hstep
      obtain ⟨rest, hanswers, hsub', hkeys'⟩ := ih hrest
      rw [requests_cons]
      refine ⟨first ++ rest, ?_, hsub.append hsub', fun halong => ?_⟩
      · rw [hanswers, hfirst, List.append_assoc]
      · obtain ⟨hunfinished, halong'⟩ := (along_cons hstep).mp halong
        rw [List.filter_append, List.filter_append, hkeys hunfinished, hkeys' halong']

/-- **Nobody waits for keys in vain.**  In every run of `Paint` what has been answered are requests
of the batches, in their order and none twice; if no batch began or ended with the shutdown
finished, every request for keys has been answered, painter or not, with as many keys as it asked
for.  Without debug assertions a batch never panics, and once the shutdown is finished it answers
nothing. -/
theorem key_requests_answered {world : T.World} {ops : List (PaintOp efns)}
    (hrun : ops.foldlM (paintStep fns efns) (new world) = some s) :
    s.answered.Sublist (requests fns ops) ∧
      (Along (paintStep fns efns) (BatchUnfinished fns) (new world) ops →
        s.answered.filter PaintRequest.forKeys =
          (requests fns ops).filter PaintRequest.forKeys) ∧
      ∀ hash messages, ∃ s', handleMessages fns hash s messages = some s' ∧
        (fns.shutdownState s.world = .finishedShuttingDown → s'.answered = s.answered) := by
  obtain ⟨answers, hanswers, hsub, hkeys⟩ := answered_of_run hrun
  have hnew : (new world : Paint T).answered = [] := rfl
  rw [hnew, List.nil_append] at hanswers
  rw [hanswers]
  refine ⟨hsub, hkeys, fun hash messages => ?_⟩
  obtain ⟨s', hs'⟩ := Option.isSome_iff_exists.mp
    (isSome_handleMessages fns hash s messages)
  refine ⟨s', hs', fun hfinished => ?_⟩
  obtain ⟨more, hmore, -, -, hnone⟩ := answered_handleMessages hs'
  rw [hmore, hnone hfinished, List.append_nil, hanswers]

/-- The embedder's calls change nothing. -/
def demoEmbedder : EmbedderFns demoTypes where
  ScaleFactor := Unit
  PhysicalSize := Unit
  PageZoom := Unit
  WebRenderDebugOption := Unit
  InputEventAndId := Unit
  Scroll := Unit
  WebViewPoint := Unit
  PinchZoomDelta := Unit
  DevicePoint := Unit
  WebViewRect := Unit
  ScreenshotCallback := Unit
  InputEventId := Unit
  InputEventResult := Unit
  setWebviewHidden := fun _ _ state world => (true, state, world)
  setHidpiScaleFactor := fun _ _ state world => (state, world)
  resizeRenderingContext := fun _ state world => (state, world)
  setPageZoom := fun _ _ state world => (state, world)
  render := fun state world => (state, world)
  performUpdates := fun state world => (state, world)
  toggleWebrenderDebug := fun _ state world => (state, world)
  notifyInputEvent := fun _ _ state world => (true, state, world)
  notifyScrollEvent := fun _ _ _ state world => (state, world)
  adjustPinchZoom := fun _ _ _ state world => (state, world)
  requestScreenshot := fun _ _ _ state world => (state, world)
  notifyInputEventHandled := fun _ _ _ state world => (state, world)

/-- `demoFns`, while the program shuts down. -/
def demoShutdown : PaintFns demoTypes := { demoFns with shutdownState := fun _ => .shuttingDown }

/-- Keys are asked for with the painter there, and after it has gone. -/
def demoRequests : List (PaintOp demoEmbedder) :=
  [.registry (.registerRenderingContext 7), .registry (.addWebview (0, 0) ()),
    .handleMessages ⟨id, fun _ => .refl _⟩ [.collectMemoryReport 5, .generateImageKey (0, 0) 3],
    .embedder (.render (0, 0)), .registry (.removeWebview (0, 0)),
    .handleMessages ⟨id, fun _ => .refl _⟩ [.generateFontKeys 2 1 4 0]]

theorem key_requests_answered_shuttingDown :
    ∃ s, demoRequests.foldlM (paintStep demoShutdown demoEmbedder) (new ()) = some s ∧
      s.answered.filter PaintRequest.forKeys = [.imageKey 3, .fontKeys 4 2 1] := by
  have hrun : demoRequests.foldlM (paintStep demoShutdown demoEmbedder) (new ()) = some _ := rfl
  refine ⟨_, hrun, (key_requests_answered hrun).2.1 ?_⟩
  exact fun _ _ => ⟨trivial, fun _ _ => ⟨trivial, fun _ _ => ⟨⟨nofun, nofun⟩,
    fun _ _ => ⟨trivial, fun _ _ => ⟨trivial, fun _ _ => ⟨⟨nofun, nofun⟩, trivial⟩⟩⟩⟩⟩⟩

end Paint

end TorOnion
