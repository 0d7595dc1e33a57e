import Mathlib.Algebra.Ring.Nat
import TorOnion.Paint.Painters

/-!
# Messages to the painters: `networking/common/this_paint.rs`, `handle_messages`

A batch of messages is handled in one go.  WebRender announces every frame that is ready by a
`NewWebRenderFrameReady`; these are taken out of the batch first, each decrementing the pending
frames of its painter, and the painters that were named are notified once, after all other messages
have been handled.

The handlers have no result where the source has `unreachable!`.  `HashMap` iterates in an order of
its own, a permutation of its entries (`IterationOrder`).  The last arm of
`handle_browser_message_while_shutting_down` is printed in the source without its pattern; it stands
for every message that the arms before it do not match.  Assertions that only debug builds have are
left out, and so is what is logged.
-/

namespace TorOnion

/-- `PaintMessage`. -/
inductive PaintMessage (T : PaintTypes)
  | collectMemoryReport (sender : T.ReportsChan)
  | changeRunningAnimationsState (webviewId : T.WebViewId) (pipelineId : T.PipelineId)
      (animationState : T.AnimationState)
  | setFrameTreeForWebView (webviewId : T.WebViewId) (frameTree : T.FrameTree)
  | setThrottled (webviewId : T.WebViewId) (pipelineId : T.PipelineId) (throttled : Bool)
  | pipelineExited (webviewId : T.WebViewId) (pipelineId : T.PipelineId)
      (pipelineExitSource : T.PipelineExitSource)
  | newWebRenderFrameReady (painterId : T.PainterId) (documentId : T.DocumentId)
      (needRepaint : Bool)
  | sendInitialTransaction (webviewId : T.WebViewId) (pipelineId : T.PipelineId)
  | scrollNodeByDelta (webviewId : T.WebViewId) (pipelineId : T.PipelineId)
      (offset : T.LayoutVector) (externalScrollId : T.ExternalScrollId)
  | scrollViewportByDelta (webviewId : T.WebViewId) (delta : T.ScrollDelta)
  | updateEpoch (webviewId : T.WebViewId) (pipelineId : T.PipelineId) (epoch : T.Epoch)
  | sendDisplayList (webviewId : T.WebViewId) (displayListDescriptor : T.DisplayListDescriptor)
      (displayListInfoReceiver : T.DisplayListInfoReceiver)
      (displayListDataReceiver : T.DisplayListDataReceiver)
  | generateFrame (painterIds : List T.PainterId)
  | generateImageKey (webviewId : T.WebViewId) (resultSender : T.ImageKeySender)
  | generateImageKeysForPipeline (webviewId : T.WebViewId) (pipelineId : T.PipelineId)
  | updateImages (painterId : T.PainterId) (updates : T.ImageUpdates)
  | delayNewFrameForCanvas (webviewId : T.WebViewId) (pipelineId : T.PipelineId)
      (canvasEpoch : T.CanvasEpoch) (imageKeys : List T.ImageKey)
  | addFont (painterId : T.PainterId) (fontKey : T.FontKey) (data : T.FontData)
      (index : T.FontIndex)
  | addSystemFont (painterId : T.PainterId) (fontKey : T.FontKey)
      (nativeHandle : T.NativeFontHandle)
  | addFontInstance (painterId : T.PainterId) (fontInstanceKey : T.FontInstanceKey)
      (fontKey : T.FontKey) (size : T.FontSize) (flags : T.FontFlags)
      (variations : T.FontVariations)
  | removeFonts (painterId : T.PainterId) (keys : List T.FontKey)
      (instanceKeys : List T.FontInstanceKey)
  | generateFontKeys (numberOfFontKeys numberOfFontInstanceKeys : ℕ)
      (resultSender : T.FontKeysSender) (painterId : T.PainterId)
  | viewport (webviewId : T.WebViewId) (viewportDescription : T.ViewportDescription)
  | screenshotReadinessReponse (webviewId : T.WebViewId)
      (pipelinesAndEpochs : T.PipelinesAndEpochs)
  | sendLCPCandidate (lcpCandidate : T.LcpCandidate) (webviewId : T.WebViewId)
      (pipelineId : T.PipelineId) (epoch : T.Epoch)
  | enableLCPCalculation (webviewId : T.WebViewId)

/-- The order in which a `HashMap` is iterated. -/
structure IterationOrder (κ β : Type) where
  order : List (Sigma fun _ : κ => β) → List (Sigma fun _ : κ => β)
  perm : ∀ entries, (order entries).Perm entries

namespace Paint

variable {T : PaintTypes} (fns : PaintFns T)

/-! ## Requests that are answered -/

/-- Something is sent over a channel. -/
def send (message : Sent T) (s : Paint T) : Paint T := { s with sent := s.sent ++ [message] }

/-- One key after the other is generated by a painter. -/
def generateKeys {Key : Type} (generate : T.PainterState → Key × T.PainterState) :
    ℕ → T.PainterState → List Key × T.PainterState
  | 0, state => ([], state)
  | n + 1, state =>
      let (key, state) := generate state
      let (keys, state) := generateKeys generate n state
      (key :: keys, state)

/-- As many keys, from the painter with this id; without such a painter they are all the key with
the number 0. -/
def keysFor {Key : Type} (generate : T.PainterState → Key × T.PainterState)
    (dummy : T.PainterId → ℕ → Key) (n : ℕ) (painterId : T.PainterId) (s : Paint T) :
    List Key × Paint T :=
  match s.maybePainter painterId with
  | none => (List.replicate n (dummy painterId 0), s)
  | some painter =>
      ((generateKeys generate n painter.state).1,
        modifyPainter painterId (fun state => (generateKeys generate n state).2) s)

/-- `Paint::handle_generate_image_key`. -/
def handleGenerateImageKey (s : Paint T) (webviewId : T.WebViewId)
    (resultSender : T.ImageKeySender) : Paint T :=
  let painterId := fns.painterIdOf webviewId
  match s.maybePainter painterId with
  | none => send (.imageKey resultSender (fns.imageKey painterId 0)) s
  | some painter =>
      send (.imageKey resultSender (fns.generateImageKey painter.state).1)
        (modifyPainter painterId (fun state => (fns.generateImageKey state).2) s)

/-- `Paint::handle_generate_image_keys_for_pipeline`. -/
def handleGenerateImageKeysForPipeline (s : Paint T) (webviewId : T.WebViewId)
    (pipelineId : T.PipelineId) : Paint T :=
  let painterId := fns.painterIdOf webviewId
  let (imageKeys, s) := keysFor fns.generateImageKey fns.imageKey fns.imageKeyBatchSize.toNat
    painterId s
  send (.sendImageKeysForPipeline pipelineId imageKeys) s

/-- `Paint::handle_generate_font_keys`. -/
def handleGenerateFontKeys (s : Paint T) (numberOfFontKeys numberOfFontInstanceKeys : ℕ)
    (resultSender : T.FontKeysSender) (painterId : T.PainterId) : Paint T :=
  let (fontKeys, s) := keysFor fns.generateFontKey fns.fontKey numberOfFontKeys painterId s
  let (fontInstanceKeys, s) := keysFor fns.generateFontInstanceKey fns.fontInstanceKey
    numberOfFontInstanceKeys painterId s
  send (.fontKeys resultSender fontKeys fontInstanceKeys) s

/-- `Paint::collect_memory_report`. -/
def collectMemoryReport (s : Paint T) (sender : T.ReportsChan) : Paint T :=
  let memoryReport := s.painters.foldl (fun (total : MemoryReport) painter =>
    let report := fns.reportMemory painter.state
    ⟨total.fonts + report.fonts, total.images + report.images,
      total.displayList + report.displayList⟩) ⟨0, 0, 0⟩
  let scrollTreesMemoryUsage :=
    (s.painters.map fun painter => fns.scrollTreesMemoryUsage painter.state).sum
  send (.processReports sender ⟨memoryReport.fonts, memoryReport.images, memoryReport.displayList,
    scrollTreesMemoryUsage⟩) s

/-! ## The handlers -/

/-- `Paint::handle_browser_message_while_shutting_down`. -/
def handleBrowserMessageWhileShuttingDown (s : Paint T) : PaintMessage T → Paint T
  | .pipelineExited webviewId pipelineId pipelineExitSource =>
      callPainter fns (fns.painterIdOf webviewId)
        (.notifyPipelineExited webviewId pipelineId pipelineExitSource) s
  | .generateImageKey webviewId resultSender =>
      handleGenerateImageKey fns s webviewId resultSender
  | .generateImageKeysForPipeline webviewId pipelineId =>
      handleGenerateImageKeysForPipeline fns s webviewId pipelineId
  | .generateFontKeys numberOfFontKeys numberOfFontInstanceKeys resultSender painterId =>
      handleGenerateFontKeys fns s numberOfFontKeys numberOfFontInstanceKeys resultSender painterId
  | _ => s

/-- The match of `Paint::handle_browser_message`, which is reached while nothing shuts down. -/
def handleBrowserMessageRunning (s : Paint T) : PaintMessage T → Option (Paint T)
  | .collectMemoryReport sender => some (collectMemoryReport fns s sender)
  | .changeRunningAnimationsState webviewId pipelineId animationState =>
      some (callPainter fns (fns.painterIdOf webviewId)
        (.changeRunningAnimationsState webviewId pipelineId animationState) s)
  | .setFrameTreeForWebView webviewId frameTree =>
      some (callPainter fns (fns.painterIdOf webviewId) (.setFrameTreeForWebview frameTree) s)
  | .setThrottled webviewId pipelineId throttled =>
      some (callPainter fns (fns.painterIdOf webviewId)
        (.setThrottled webviewId pipelineId throttled) s)
  | .pipelineExited webviewId pipelineId pipelineExitSource =>
      some (callPainter fns (fns.painterIdOf webviewId)
        (.notifyPipelineExited webviewId pipelineId pipelineExitSource) s)
  -- `unreachable!`
  | .newWebRenderFrameReady _ _ _ => none
  | .sendInitialTransaction webviewId pipelineId =>
      some (callPainter fns (fns.painterIdOf webviewId)
        (.sendInitialPipelineTransaction webviewId pipelineId) s)
  | .scrollNodeByDelta webviewId pipelineId offset externalScrollId =>
      some (callPainter fns (fns.painterIdOf webviewId)
        (.scrollNodeByDelta webviewId pipelineId offset externalScrollId) s)
  | .scrollViewportByDelta webviewId delta =>
      some (callPainter fns (fns.painterIdOf webviewId) (.scrollViewportByDelta webviewId delta) s)
  | .updateEpoch webviewId pipelineId epoch =>
      some (callPainter fns (fns.painterIdOf webviewId) (.updateEpoch webviewId pipelineId epoch) s)
  | .sendDisplayList webviewId displayListDescriptor displayListInfoReceiver
        displayListDataReceiver =>
      some (callPainter fns (fns.painterIdOf webviewId)
        (.handleNewDisplayList webviewId displayListDescriptor displayListInfoReceiver
          displayListDataReceiver) s)
  | .generateFrame painterIds =>
      some (painterIds.foldl (fun s painterId =>
        callPainter fns painterId .generateFrameForScript s) s)
  | .generateImageKey webviewId resultSender =>
      some (handleGenerateImageKey fns s webviewId resultSender)
  | .generateImageKeysForPipeline webviewId pipelineId =>
      some (handleGenerateImageKeysForPipeline fns s webviewId pipelineId)
  | .updateImages painterId updates =>
      some (callPainter fns painterId (.updateImages updates) s)
  | .delayNewFrameForCanvas webviewId pipelineId canvasEpoch imageKeys =>
      some (callPainter fns (fns.painterIdOf webviewId)
        (.delayNewFramesForCanvas pipelineId canvasEpoch imageKeys) s)
  | .addFont painterId fontKey data index =>
      some (callPainter fns painterId (.addFont fontKey data index) s)
  | .addSystemFont painterId fontKey nativeHandle =>
      some (callPainter fns painterId (.addSystemFont fontKey nativeHandle) s)
  | .addFontInstance painterId fontInstanceKey fontKey size flags variations =>
      some (callPainter fns painterId
        (.addFontInstance fontInstanceKey fontKey size flags variations) s)
  | .removeFonts painterId keys instanceKeys =>
      some (callPainter fns painterId (.removeFonts keys instanceKeys) s)
  | .generateFontKeys numberOfFontKeys numberOfFontInstanceKeys resultSender painterId =>
      some (handleGenerateFontKeys fns s numberOfFontKeys numberOfFontInstanceKeys resultSender
        painterId)
  | .viewport webviewId viewportDescription =>
      some (callPainter fns (fns.painterIdOf webviewId)
        (.setViewportDescription webviewId viewportDescription) s)
  | .screenshotReadinessReponse webviewId pipelinesAndEpochs =>
      some (callPainter fns (fns.painterIdOf webviewId)
        (.handleScreenshotReadinessReply webviewId pipelinesAndEpochs) s)
  | .sendLCPCandidate lcpCandidate webviewId pipelineId epoch =>
      some (callPainter fns (fns.painterIdOf webviewId)
        (.appendLcpCandidate lcpCandidate webviewId pipelineId epoch) s)
  | .enableLCPCalculation webviewId =>
      some (callPainter fns (fns.painterIdOf webviewId) (.enableLcpCalculation webviewId) s)

/-- `Paint::handle_browser_message`. -/
def handleBrowserMessage (s : Paint T) (msg : PaintMessage T) : Option (Paint T) :=
  match fns.shutdownState s.world with
  | .notShuttingDown => handleBrowserMessageRunning fns s msg
  | .shuttingDown => some (handleBrowserMessageWhileShuttingDown fns s msg)
  | .finishedShuttingDown => some s

/-- What the closure of `retain` captures, with the messages that stay. -/
structure Retained (T : PaintTypes) where
  paint : Paint T
  sawWebrenderFrameReadyForPainter : AList fun _ : T.PainterId => Bool
  messages : List (PaintMessage T)

/-- The closure of `retain`. -/
def retainMessage (r : Retained T) : PaintMessage T → Retained T
  | .newWebRenderFrameReady painterId _ needRepaint =>
      match r.paint.maybePainter painterId with
      | none => r
      | some _ =>
          let saw := r.sawWebrenderFrameReadyForPainter
          { r with
            paint := modifyPainter painterId fns.decrementPendingFrames r.paint
            sawWebrenderFrameReadyForPainter :=
              saw.insert painterId ((saw.lookup painterId).getD needRepaint || needRepaint) }
  | message => { r with messages := r.messages ++ [message] }

/-- The loop over the messages that stay: the flag says whether it was left early. -/
def handleRetained (s : Paint T) : List (PaintMessage T) → Option (Bool × Paint T)
  | [] => some (false, s)
  | message :: messages => do
      let s ← handleBrowserMessage fns s message
      if fns.shutdownState s.world = .finishedShuttingDown then some (true, s)
      else handleRetained s messages

/-- The loop over the painters that were named. -/
def notifyPainters (s : Paint T) (entries : List (Sigma fun _ : T.PainterId => Bool)) : Paint T :=
  entries.foldl (fun s entry =>
    match s.maybePainter entry.1 with
    | none => s
    | some _ => modifyPainter entry.1 (fns.handleNewWebrenderFrameReady entry.2) s) s

/-- `Paint::handle_messages`. -/
def handleMessages (hash : IterationOrder T.PainterId Bool) (s : Paint T)
    (messages : List (PaintMessage T)) : Option (Paint T) := do
  let r := messages.foldl (retainMessage fns) ⟨s, ∅, []⟩
  let (left, s) ← handleRetained fns r.paint r.messages
  if left then some s
  else some (notifyPainters fns s (hash.order r.sawWebrenderFrameReadyForPainter.entries))

end Paint

end TorOnion
