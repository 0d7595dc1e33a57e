import Mathlib.Data.List.AList
import TorOnion.Library.Found

/-!
# Painters: `networking/common/this_paint.rs`, the registry

`Paint` owns a painter for each rendering context and routes what concerns a webview to the painter
of that webview.  The painters stand in a vector that is searched by id, and what the GPU threads
need of each stands in `painter_surfman_details_map`, under the same id.

`Painter` is not in the repository.  `PaintFns` has what the file calls of it, with everything else
that the file uses and does not define; the types of the messages' contents are `PaintTypes`.  A
method of a painter changes the painter and what the rest of the program shares with it, the
`World`, of which the file reads the shutdown state.  An id is handed out by every `Painter::new`,
and `created` counts them.  Where the source panics, the functions below have no result.
-/

namespace TorOnion

/-- `ShutdownState`. -/
inductive ShutdownState
  | notShuttingDown
  | shuttingDown
  | finishedShuttingDown
  deriving DecidableEq

/-- The types that the file uses and does not define.  Rendering contexts are pointers. -/
structure PaintTypes where
  (PainterId WebViewId PipelineId DocumentId RenderingContext Connection Adapter : Type)
  (WebView ViewportDetails AnimationState FrameTree PipelineExitSource : Type)
  (LayoutVector ExternalScrollId ScrollDelta Epoch ViewportDescription : Type)
  (DisplayListDescriptor DisplayListInfoReceiver DisplayListDataReceiver : Type)
  (ImageUpdates CanvasEpoch ImageKey ImageKeySender : Type)
  (FontKey FontData FontIndex NativeFontHandle : Type)
  (FontInstanceKey FontSize FontFlags FontVariations FontKeysSender : Type)
  (PipelinesAndEpochs LcpCandidate ReportsChan : Type)
  /-- What a painter has besides its id and its rendering context. -/
  PainterState : Type
  /-- What painters share with the rest of the program. -/
  World : Type
  decEqPainterId : DecidableEq PainterId
  decEqRenderingContext : DecidableEq RenderingContext

instance {T : PaintTypes} : DecidableEq T.PainterId := T.decEqPainterId

instance {T : PaintTypes} : DecidableEq T.RenderingContext := T.decEqRenderingContext

/-- A call of a method of `Painter` that has no result. -/
inductive PainterCall (T : PaintTypes)
  | addWebview (webview : T.WebView) (viewportDetails : T.ViewportDetails)
  | removeWebview (webviewId : T.WebViewId)
  | changeRunningAnimationsState (webviewId : T.WebViewId) (pipelineId : T.PipelineId)
      (animationState : T.AnimationState)
  | setFrameTreeForWebview (frameTree : T.FrameTree)
  | setThrottled (webviewId : T.WebViewId) (pipelineId : T.PipelineId) (throttled : Bool)
  | notifyPipelineExited (webviewId : T.WebViewId) (pipelineId : T.PipelineId)
      (pipelineExitSource : T.PipelineExitSource)
  | sendInitialPipelineTransaction (webviewId : T.WebViewId) (pipelineId : T.PipelineId)
  | scrollNodeByDelta (webviewId : T.WebViewId) (pipelineId : T.PipelineId)
      (offset : T.LayoutVector) (externalScrollId : T.ExternalScrollId)
  | scrollViewportByDelta (webviewId : T.WebViewId) (delta : T.ScrollDelta)
  | updateEpoch (webviewId : T.WebViewId) (pipelineId : T.PipelineId) (epoch : T.Epoch)
  | handleNewDisplayList (webviewId : T.WebViewId)
      (displayListDescriptor : T.DisplayListDescriptor)
      (displayListInfoReceiver : T.DisplayListInfoReceiver)
      (displayListDataReceiver : T.DisplayListDataReceiver)
  | generateFrameForScript
  | updateImages (updates : T.ImageUpdates)
  | delayNewFramesForCanvas (pipelineId : T.PipelineId) (canvasEpoch : T.CanvasEpoch)
      (imageKeys : List T.ImageKey)
  | addFont (fontKey : T.FontKey) (data : T.FontData) (index : T.FontIndex)
  | addSystemFont (fontKey : T.FontKey) (nativeHandle : T.NativeFontHandle)
  | addFontInstance (fontInstanceKey : T.FontInstanceKey) (fontKey : T.FontKey)
      (size : T.FontSize) (flags : T.FontFlags) (variations : T.FontVariations)
  | removeFonts (keys : List T.FontKey) (instanceKeys : List T.FontInstanceKey)
  | setViewportDescription (webviewId : T.WebViewId) (viewportDescription : T.ViewportDescription)
  | handleScreenshotReadinessReply (webviewId : T.WebViewId)
      (pipelinesAndEpochs : T.PipelinesAndEpochs)
  | appendLcpCandidate (lcpCandidate : T.LcpCandidate) (webviewId : T.WebViewId)
      (pipelineId : T.PipelineId) (epoch : T.Epoch)
  | enableLcpCalculation (webviewId : T.WebViewId)

/-- `MemoryReport`, the sizes that are reported. -/
structure MemoryReport where
  fonts : ℕ
  images : ℕ
  displayList : ℕ
  deriving DecidableEq

/-- The functions that the file uses and does not define. -/
structure PaintFns (T : PaintTypes) where
  /-- `PainterId::from`: a webview knows its painter. -/
  painterIdOf : T.WebViewId → T.PainterId
  /-- `WebViewTrait::id`. -/
  webviewId : T.WebView → T.WebViewId
  /-- The ids that one `Painter::new` after the other hands out. -/
  newPainterId : ℕ → T.PainterId
  newPainterId_injective : Function.Injective newPainterId
  /-- `Painter::new`. -/
  newPainter : T.RenderingContext → T.World → T.PainterState × T.World
  connection : T.RenderingContext → Option T.Connection
  createAdapter : T.Connection → Option T.Adapter
  call : PainterCall T → T.PainterState → T.World → T.PainterState × T.World
  /-- `Painter::is_empty`. -/
  isEmpty : T.PainterState → Bool
  decrementPendingFrames : T.PainterState → T.PainterState
  handleNewWebrenderFrameReady : Bool → T.PainterState → T.PainterState
  reportMemory : T.PainterState → MemoryReport
  scrollTreesMemoryUsage : T.PainterState → ℕ
  /-- `webrender_api.generate_image_key`, which counts its keys. -/
  generateImageKey : T.PainterState → T.ImageKey × T.PainterState
  generateFontKey : T.PainterState → T.FontKey × T.PainterState
  generateFontInstanceKey : T.PainterState → T.FontInstanceKey × T.PainterState
  /-- `ImageKey::new`, with the namespace of a painter. -/
  imageKey : T.PainterId → ℕ → T.ImageKey
  fontKey : T.PainterId → ℕ → T.FontKey
  fontInstanceKey : T.PainterId → ℕ → T.FontInstanceKey
  /-- `pref!(image_key_batch_size)`. -/
  imageKeyBatchSize : ℤ
  shutdownState : T.World → ShutdownState

/-- `Painter`. -/
structure Painter (T : PaintTypes) where
  painterId : T.PainterId
  renderingContext : T.RenderingContext
  state : T.PainterState

/-- A method has changed the painter. -/
def Painter.mapState {T : PaintTypes} (h : T.PainterState → T.PainterState)
    (painter : Painter T) : Painter T :=
  { painter with state := h painter.state }

/-- `PainterSurfmanDetails`. -/
structure PainterSurfmanDetails (T : PaintTypes) where
  connection : T.Connection
  adapter : T.Adapter

/-- The sizes that `collect_memory_report` sends, in their order. -/
structure ProcessReports where
  fonts : ℕ
  images : ℕ
  displayList : ℕ
  scrollTree : ℕ
  deriving DecidableEq

/-- What is sent over a channel. -/
inductive Sent (T : PaintTypes)
  | processReports (sender : T.ReportsChan) (reports : ProcessReports)
  | imageKey (resultSender : T.ImageKeySender) (imageKey : T.ImageKey)
  | sendImageKeysForPipeline (pipelineId : T.PipelineId) (imageKeys : List T.ImageKey)
  | fontKeys (resultSender : T.FontKeysSender) (fontKeys : List T.FontKey)
      (fontInstanceKeys : List T.FontInstanceKey)

/-- `Paint`. -/
structure Paint (T : PaintTypes) where
  painters : List (Painter T)
  painterSurfmanDetailsMap : AList fun _ : T.PainterId => PainterSurfmanDetails T
  /-- What has been sent, oldest first. -/
  sent : List (Sent T)
  world : T.World
  /-- How often `Painter::new` has run. -/
  created : ℕ

namespace Paint

variable {T : PaintTypes} (fns : PaintFns T)

/-- `Paint::new`, the registry of which is empty. -/
def new (world : T.World) : Paint T where
  painters := []
  painterSurfmanDetailsMap := ∅
  sent := []
  world := world
  created := 0

/-- `Paint::maybe_painter`, and `maybe_painter_mut` with it. -/
def maybePainter (s : Paint T) (painterId : T.PainterId) : Option (Painter T) :=
  s.painters.find? (·.painterId = painterId)

/-- The painter that is found under an id is changed. -/
def modifyPainter (painterId : T.PainterId) (h : T.PainterState → T.PainterState) (s : Paint T) :
    Paint T :=
  { s with painters := modifyFound Painter.painterId painterId (Painter.mapState h) s.painters }

/-- Every painter that is found under its id changes by itself. -/
def modifyPainters (h : T.PainterId → T.PainterState → T.PainterState) (s : Paint T) : Paint T :=
  { s with
    painters := mapFound Painter.painterId (fun painterId => Painter.mapState (h painterId))
      s.painters }

/-- What a method has done to what painters share. -/
def setWorld (world : T.World) (s : Paint T) : Paint T := { s with world := world }

/-- A method is called on the painter with this id, if there is one. -/
def callPainter (painterId : T.PainterId) (call : PainterCall T) (s : Paint T) : Paint T :=
  match s.maybePainter painterId with
  | none => s
  | some painter =>
      let (state, world) := fns.call call painter.state s.world
      setWorld world (modifyPainter painterId (fun _ => state) s)

/-- `Paint::register_rendering_context`.  Two calls panic, for want of a connection or of an
adapter. -/
def registerRenderingContext (s : Paint T) (renderingContext : T.RenderingContext) :
    Option (T.PainterId × Paint T) :=
  match s.painters.findSome? fun painter =>
      if painter.renderingContext = renderingContext then some painter.painterId else none with
  | some painterId => some (painterId, s)
  | none => do
      let (state, world) := fns.newPainter renderingContext s.world
      let painterId := fns.newPainterId s.created
      let connection ← fns.connection renderingContext
      let adapter ← fns.createAdapter connection
      some (painterId,
        { s with
          painterSurfmanDetailsMap :=
            s.painterSurfmanDetailsMap.insert painterId ⟨connection, adapter⟩
          painters := s.painters ++ [⟨painterId, renderingContext, state⟩]
          world := world
          created := s.created + 1 })

/-- `Paint::remove_painter`. -/
def removePainter (painterId : T.PainterId) (s : Paint T) : Paint T :=
  { s with
    painters := s.painters.filter (·.painterId ≠ painterId)
    painterSurfmanDetailsMap := s.painterSurfmanDetailsMap.erase painterId }

/-- `Paint::add_webview`, which panics when the webview has no painter. -/
def addWebview (s : Paint T) (webview : T.WebView) (viewportDetails : T.ViewportDetails) :
    Option (Paint T) :=
  let painterId := fns.painterIdOf (fns.webviewId webview)
  (s.maybePainter painterId).map fun _ =>
    callPainter fns painterId (.addWebview webview viewportDetails) s

/-- `Paint::remove_webview`, which panics when the webview has no painter. -/
def removeWebview (s : Paint T) (webviewId : T.WebViewId) : Option (Paint T) := do
  let painterId := fns.painterIdOf webviewId
  let painter ← s.maybePainter painterId
  let (state, world) := fns.call (.removeWebview webviewId) painter.state s.world
  let s := setWorld world (modifyPainter painterId (fun _ => state) s)
  if fns.isEmpty state then some (removePainter painterId s) else some s

/-! ## What is found -/

variable {fns} {s : Paint T} {painterId : T.PainterId} {painter : Painter T}

/-- The ids, in the order of the painters. -/
def painterIds (s : Paint T) : List T.PainterId := s.painters.map Painter.painterId

lemma maybePainter_eq_none_iff : s.maybePainter painterId = none ↔ painterId ∉ s.painterIds := by
  simp [maybePainter, painterIds]

lemma mem_of_maybePainter (h : s.maybePainter painterId = some painter) :
    painter ∈ s.painters ∧ painter.painterId = painterId :=
  ⟨List.mem_of_find?_eq_some h, by simpa using List.find?_some h⟩

lemma mem_painterIds_of_maybePainter (h : s.maybePainter painterId = some painter) :
    painterId ∈ s.painterIds := by
  obtain ⟨hmem, rfl⟩ := mem_of_maybePainter h
  exact List.mem_map_of_mem hmem

/-- Where no id stands twice, every painter is found. -/
lemma painters_modifyPainters (hids : s.painterIds.Nodup)
    (h : T.PainterId → T.PainterState → T.PainterState) :
    (modifyPainters h s).painters =
      s.painters.map fun painter => painter.mapState (h painter.painterId) :=
  mapFound_of_nodup hids

@[simp]
lemma painterIds_modifyPainters (h : T.PainterId → T.PainterState → T.PainterState) :
    (modifyPainters h s).painterIds = s.painterIds :=
  map_key_mapFound fun _ _ => rfl

lemma modifyPainters_congr {h h' : T.PainterId → T.PainterState → T.PainterState}
    (heq : ∀ painterId ∈ s.painterIds, h painterId = h' painterId) :
    modifyPainters h s = modifyPainters h' s := by
  rw [modifyPainters, modifyPainters, mapFound_congr]
  intro painter hmem
  rw [heq painter.painterId (List.mem_map_of_mem hmem)]

lemma modifyPainters_comp (h h' : T.PainterId → T.PainterState → T.PainterState) :
    modifyPainters h (modifyPainters h' s) =
      modifyPainters (fun painterId => h painterId ∘ h' painterId) s := by
  have hcomp : mapFound Painter.painterId (fun painterId => Painter.mapState (h painterId))
      (modifyPainters h' s).painters = mapFound Painter.painterId
        (fun painterId => Painter.mapState (h painterId) ∘ Painter.mapState (h' painterId))
        s.painters := mapFound_comp fun _ _ => rfl
  exact congrArg (fun painters => { s with painters := painters }) hcomp

@[simp]
lemma modifyPainters_id : modifyPainters (fun _ => id) s = s := by
  rw [modifyPainters, mapFound_eq_self fun _ _ => rfl]

/-- One painter changes, and the others do not. -/
lemma modifyPainter_eq_modifyPainters (h : T.PainterState → T.PainterState) :
    modifyPainter painterId h s =
      modifyPainters (Function.update (fun _ => id) painterId h) s := by
  rw [modifyPainter, modifyPainters, modifyFound_eq_mapFound]
  congr 2
  funext id
  rcases eq_or_ne id painterId with rfl | hne
  · rw [Function.update_self, Function.update_self]
  · rw [Function.update_of_ne hne, Function.update_of_ne hne]
    rfl

@[simp]
lemma painterIds_modifyPainter (h : T.PainterState → T.PainterState) :
    (modifyPainter painterId h s).painterIds = s.painterIds := by
  rw [modifyPainter_eq_modifyPainters, painterIds_modifyPainters]

lemma modifyPainter_of_notMem (hid : painterId ∉ s.painterIds)
    (h : T.PainterState → T.PainterState) : modifyPainter painterId h s = s := by
  rw [modifyPainter_eq_modifyPainters]
  refine (modifyPainters_congr fun id hmem => ?_).trans modifyPainters_id
  exact Function.update_of_ne (ne_of_mem_of_not_mem hmem hid) _ _

@[simp]
lemma painters_setWorld (world : T.World) : (setWorld world s).painters = s.painters := rfl

@[simp]
lemma painterIds_setWorld (world : T.World) : (setWorld world s).painterIds = s.painterIds := rfl

lemma callPainter_of_some (h : s.maybePainter painterId = some painter) (call : PainterCall T) :
    callPainter fns painterId call s =
      setWorld (fns.call call painter.state s.world).2
        (modifyPainter painterId (fun _ => (fns.call call painter.state s.world).1) s) := by
  rw [callPainter, h]

/-- An id that is not registered calls nothing. -/
lemma callPainter_of_notMem (h : painterId ∉ s.painterIds) (call : PainterCall T) :
    callPainter fns painterId call s = s := by
  rw [callPainter, maybePainter_eq_none_iff.mpr h]

@[simp]
lemma painterIds_callPainter (call : PainterCall T) :
    (callPainter fns painterId call s).painterIds = s.painterIds := by
  cases h : s.maybePainter painterId with
  | none => rw [callPainter_of_notMem (maybePainter_eq_none_iff.mp h)]
  | some painter =>
      rw [callPainter_of_some h, painterIds_setWorld, painterIds_modifyPainter]

end Paint

end TorOnion
