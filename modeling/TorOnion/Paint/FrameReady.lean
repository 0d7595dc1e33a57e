import TorOnion.Paint.Messages
import TorOnion.Paint.Registry

/-!
# Frames that are ready

What a batch says about frames that are ready is, for every painter, the list of `need_repaint`
flags of the messages that name it (`needRepaints`).  Where these messages stand in the batch does
not matter: each painter decrements its pending frames once per flag (`decremented`), the other
messages are handled in their order, and then each painter that has flags is notified once, of their
disjunction (`notified`).  A painter changes only itself here, so the painters are served all at
once, by `modifyPainters`.
-/

namespace TorOnion

namespace PaintMessage

variable {T : PaintTypes} (fns : PaintFns T)

/-- A `NewWebRenderFrameReady`, with its painter and its flag. -/
def frameReady? : PaintMessage T → Option (T.PainterId × Bool)
  | .newWebRenderFrameReady painterId _ needRepaint => some (painterId, needRepaint)
  | _ => none

/-- The painters that a message names. -/
def named : PaintMessage T → List T.PainterId
  | .collectMemoryReport _ => []
  | .newWebRenderFrameReady painterId _ _ => [painterId]
  | .generateFrame painterIds => painterIds
  | .updateImages painterId _ => [painterId]
  | .addFont painterId _ _ _ => [painterId]
  | .addSystemFont painterId _ _ => [painterId]
  | .addFontInstance painterId _ _ _ _ _ => [painterId]
  | .removeFonts painterId _ _ => [painterId]
  | .generateFontKeys _ _ _ painterId => [painterId]
  | .changeRunningAnimationsState webviewId _ _ => [fns.painterIdOf webviewId]
  | .setFrameTreeForWebView webviewId _ => [fns.painterIdOf webviewId]
  | .setThrottled webviewId _ _ => [fns.painterIdOf webviewId]
  | .pipelineExited webviewId _ _ => [fns.painterIdOf webviewId]
  | .sendInitialTransaction webviewId _ => [fns.painterIdOf webviewId]
  | .scrollNodeByDelta webviewId _ _ _ => [fns.painterIdOf webviewId]
  | .scrollViewportByDelta webviewId _ => [fns.painterIdOf webviewId]
  | .updateEpoch webviewId _ _ => [fns.painterIdOf webviewId]
  | .sendDisplayList webviewId _ _ _ => [fns.painterIdOf webviewId]
  | .generateImageKey webviewId _ => [fns.painterIdOf webviewId]
  | .generateImageKeysForPipeline webviewId _ => [fns.painterIdOf webviewId]
  | .delayNewFrameForCanvas webviewId _ _ _ => [fns.painterIdOf webviewId]
  | .viewport webviewId _ => [fns.painterIdOf webviewId]
  | .screenshotReadinessReponse webviewId _ => [fns.painterIdOf webviewId]
  | .sendLCPCandidate _ webviewId _ _ => [fns.painterIdOf webviewId]
  | .enableLCPCalculation webviewId => [fns.painterIdOf webviewId]

/-- What is answered without a painter: the requests for keys, with keys that have the number 0. -/
def dummyReply : PaintMessage T → List (Sent T)
  | .generateImageKey webviewId resultSender =>
      [.imageKey resultSender (fns.imageKey (fns.painterIdOf webviewId) 0)]
  | .generateImageKeysForPipeline webviewId pipelineId =>
      [.sendImageKeysForPipeline pipelineId
        (List.replicate fns.imageKeyBatchSize.toNat (fns.imageKey (fns.painterIdOf webviewId) 0))]
  | .generateFontKeys numberOfFontKeys numberOfFontInstanceKeys resultSender painterId =>
      [.fontKeys resultSender (List.replicate numberOfFontKeys (fns.fontKey painterId 0))
        (List.replicate numberOfFontInstanceKeys (fns.fontInstanceKey painterId 0))]
  | _ => []

end PaintMessage

namespace Paint

variable {T : PaintTypes} (fns : PaintFns T)

/-! ## What a batch does to the painters -/

/-- The messages that stay in the batch. -/
def otherMessages (messages : List (PaintMessage T)) : List (PaintMessage T) :=
  messages.filter fun message => message.frameReady?.isNone

/-- The flags of the frames of a painter that are ready. -/
def needRepaints (messages : List (PaintMessage T)) (painterId : T.PainterId) : List Bool :=
  messages.filterMap fun message =>
    message.frameReady?.bind fun frame => if frame.1 = painterId then some frame.2 else none

/-- Each painter decrements its pending frames once for each of its frames. -/
def decremented (messages : List (PaintMessage T)) : Paint T → Paint T :=
  modifyPainters fun painterId =>
    fns.decrementPendingFrames^[(needRepaints messages painterId).length]

/-- A painter is notified when it has frames, of whether one of them needs a repaint. -/
def notify : List Bool → T.PainterState → T.PainterState
  | [], state => state
  | need :: needs, state => fns.handleNewWebrenderFrameReady (need || needs.any id) state

/-- Each painter is notified of its frames. -/
def notified (messages : List (PaintMessage T)) : Paint T → Paint T :=
  modifyPainters fun painterId => notify fns (needRepaints messages painterId)

/-- While these messages are handled, the shutdown state is never `FinishedShuttingDown`. -/
def KeepsRunning (s : Paint T) : List (PaintMessage T) → Prop
  | [] => fns.shutdownState s.world ≠ .finishedShuttingDown
  | message :: messages => fns.shutdownState s.world ≠ .finishedShuttingDown ∧
      ∀ s', handleBrowserMessage fns s message = some s' → KeepsRunning s' messages

/-- A message that names painters, none of which is there, and that is not answered either. -/
def Idle (s : Paint T) (message : PaintMessage T) : Prop :=
  message.named fns ≠ [] ∧ (∀ painterId ∈ message.named fns, painterId ∉ s.painterIds) ∧
    message.dummyReply fns = []

instance (s : Paint T) : DecidablePred (Idle fns s) := fun _ =>
  inferInstanceAs (Decidable (_ ∧ _ ∧ _))

variable {fns} {s s' : Paint T} {message : PaintMessage T}
  {messages messages' : List (PaintMessage T)} {painterId : T.PainterId}

/-! ## Taking the frames out of the batch -/

lemma needRepaints_cons_of_none (h : message.frameReady? = none) :
    needRepaints (message :: messages) painterId = needRepaints messages painterId := by
  rw [needRepaints, List.filterMap_cons_none (by rw [h]; rfl), needRepaints]

lemma needRepaints_cons_of_some {id : T.PainterId} {need : Bool}
    (h : message.frameReady? = some (id, need)) :
    needRepaints (message :: messages) painterId =
      if id = painterId then need :: needRepaints messages painterId
      else needRepaints messages painterId := by
  split
  next heq =>
    rw [needRepaints, List.filterMap_cons_some (b := need) (by rw [h]; exact if_pos heq),
      needRepaints]
  next hne =>
    rw [needRepaints, List.filterMap_cons_none (by rw [h]; exact if_neg hne), needRepaints]

lemma retainMessage_of_none (h : message.frameReady? = none) (r : Retained T) :
    retainMessage fns r message = { r with messages := r.messages ++ [message] } := by
  cases message <;> first | rfl | cases h

lemma retainMessage_of_some {need : Bool} (h : message.frameReady? = some (painterId, need))
    (r : Retained T) :
    retainMessage fns r message =
      if painterId ∈ r.paint.painterIds then
        { r with
          paint := modifyPainter painterId fns.decrementPendingFrames r.paint
          sawWebrenderFrameReadyForPainter := r.sawWebrenderFrameReadyForPainter.insert painterId
            ((r.sawWebrenderFrameReadyForPainter.lookup painterId).getD need || need) }
      else r := by
  cases message <;> try cases h
  rw [retainMessage]
  split
  next hnone => rw [if_neg (maybePainter_eq_none_iff.mp hnone)]
  next hsome => exact (if_pos (mem_painterIds_of_maybePainter hsome)).symm

lemma otherMessages_cons_of_none (h : message.frameReady? = none) :
    otherMessages (message :: messages) = message :: otherMessages messages :=
  List.filter_cons_of_pos (by simp [h])

lemma otherMessages_cons_of_some {frame : T.PainterId × Bool}
    (h : message.frameReady? = some frame) :
    otherMessages (message :: messages) = otherMessages messages :=
  List.filter_cons_of_neg (by simp [h])

lemma decremented_cons_of_none (h : message.frameReady? = none) :
    decremented fns (message :: messages) s = decremented fns messages s := by
  rw [decremented, decremented]
  simp only [needRepaints_cons_of_none h]

/-- The first frame of a batch decrements its painter. -/
lemma decremented_cons_of_some {need : Bool} (h : message.frameReady? = some (painterId, need)) :
    decremented fns (message :: messages) s =
      decremented fns messages (modifyPainter painterId fns.decrementPendingFrames s) := by
  rw [modifyPainter_eq_modifyPainters, decremented, decremented, modifyPainters_comp]
  refine modifyPainters_congr fun id _ => ?_
  rw [needRepaints_cons_of_some h]
  split
  next heq => rw [← heq, Function.update_self, List.length_cons, Function.iterate_succ]
  next hne => rw [Function.update_of_ne (Ne.symm hne), Function.comp_id]

/-- One more flag for a painter. -/
def mergeFlag (saw : Option Bool) (need : Bool) : Option Bool := some (saw.getD need || need)

/-- What `retain` does: the painters are decremented, the other messages stay, and the flags of
every painter that is there are merged. -/
lemma foldl_retainMessage (fns : PaintFns T) (messages : List (PaintMessage T)) (r : Retained T) :
    (messages.foldl (retainMessage fns) r).paint = decremented fns messages r.paint ∧
      (messages.foldl (retainMessage fns) r).messages = r.messages ++ otherMessages messages ∧
      ∀ painterId,
        (messages.foldl (retainMessage fns) r).sawWebrenderFrameReadyForPainter.lookup painterId =
          if painterId ∈ r.paint.painterIds then
            (needRepaints messages painterId).foldl mergeFlag
              (r.sawWebrenderFrameReadyForPainter.lookup painterId)
          else r.sawWebrenderFrameReadyForPainter.lookup painterId := by
  induction messages generalizing r with
  | nil =>
      refine ⟨modifyPainters_id.symm, (List.append_nil _).symm, fun painterId => ?_⟩
      exact (ite_self _).symm
  | cons message messages ih =>
      rw [List.foldl_cons]
      cases h : message.frameReady? with
      | none =>
          obtain ⟨hpaint, hmessages, hsaw⟩ := ih { r with messages := r.messages ++ [message] }
          rw [retainMessage_of_none h, decremented_cons_of_none h, otherMessages_cons_of_none h]
          refine ⟨hpaint, ?_, fun id => ?_⟩
          · rw [hmessages, List.append_assoc, List.singleton_append]
          · rw [hsaw, needRepaints_cons_of_none h]
      | some frame =>
          obtain ⟨id, need⟩ := frame
          rw [retainMessage_of_some h, decremented_cons_of_some h, otherMessages_cons_of_some h]
          split
          next hmem =>
            obtain ⟨hpaint, hmessages, hsaw⟩ := ih { r with
              paint := modifyPainter id fns.decrementPendingFrames r.paint
              sawWebrenderFrameReadyForPainter := r.sawWebrenderFrameReadyForPainter.insert id
                ((r.sawWebrenderFrameReadyForPainter.lookup id).getD need || need) }
            refine ⟨hpaint, hmessages, fun k => ?_⟩
            rw [hsaw, painterIds_modifyPainter, needRepaints_cons_of_some h]
            rcases eq_or_ne id k with rfl | hne
            · rw [if_pos rfl, if_pos hmem, if_pos hmem, AList.lookup_insert, List.foldl_cons,
                mergeFlag]
            · rw [if_neg hne, AList.lookup_insert_ne hne.symm]
          next hnot =>
            -- a frame of a painter that is not there leaves no trace
            obtain ⟨hpaint, hmessages, hsaw⟩ := ih r
            rw [modifyPainter_of_notMem hnot]
            refine ⟨hpaint, hmessages, fun k => ?_⟩
            rw [hsaw, needRepaints_cons_of_some h]
            split
            next hk => rw [if_neg (ne_of_mem_of_not_mem hk hnot).symm]
            next => rfl

/-! ## Notifying the painters -/

lemma foldl_mergeFlag_some (need : Bool) (needs : List Bool) :
    needs.foldl mergeFlag (some need) = some (need || needs.any id) := by
  induction needs generalizing need with
  | nil => rw [List.foldl_nil, List.any_nil, Bool.or_false]
  | cons b needs ih =>
      rw [List.foldl_cons, mergeFlag, Option.getD_some, ih, List.any_cons, Bool.or_assoc, id]

/-- The merged flags say of what to notify a painter. -/
lemma foldl_mergeFlag (needs : List Bool) :
    (needs.foldl mergeFlag none).elim id fns.handleNewWebrenderFrameReady = notify fns needs := by
  cases needs with
  | nil => rfl
  | cons need needs =>
      rw [List.foldl_cons, mergeFlag, Option.getD_none, Bool.or_self, foldl_mergeFlag_some]
      rfl

lemma notifyPainters_cons (entry : Sigma fun _ : T.PainterId => Bool)
    (entries : List (Sigma fun _ : T.PainterId => Bool)) :
    notifyPainters fns s (entry :: entries) = notifyPainters fns
      (modifyPainter entry.1 (fns.handleNewWebrenderFrameReady entry.2) s) entries := by
  rw [notifyPainters, List.foldl_cons, ← notifyPainters]
  split
  next hnone => rw [modifyPainter_of_notMem (maybePainter_eq_none_iff.mp hnone)]
  next => rfl

lemma notifyPainters_eq_foldl (entries : List (Sigma fun _ : T.PainterId => Bool)) :
    notifyPainters fns s entries =
      { s with
        painters := entries.foldl (fun painters entry =>
          modifyFound Painter.painterId entry.1
            (Painter.mapState (fns.handleNewWebrenderFrameReady entry.2)) painters)
          s.painters } := by
  induction entries generalizing s with
  | nil => rfl
  | cons entry entries ih => exact (notifyPainters_cons entry entries).trans ih

/-- Entries of a map are served all at once. -/
lemma notifyPainters_eq {entries : List (Sigma fun _ : T.PainterId => Bool)}
    (hkeys : entries.NodupKeys) :
    notifyPainters fns s entries = modifyPainters (fun painterId =>
      (entries.dlookup painterId).elim id fns.handleNewWebrenderFrameReady) s := by
  rw [notifyPainters_eq_foldl, foldl_modifyFound_entries (h := fun need =>
    Painter.mapState (fns.handleNewWebrenderFrameReady need)) (fun _ _ => rfl) hkeys,
    modifyPainters]
  congr 2
  funext painterId
  cases entries.dlookup painterId <;> rfl

/-- In whatever order the map is iterated, the painters are notified of their frames. -/
lemma notifyPainters_retained (hash : IterationOrder T.PainterId Bool)
    (h : s'.painterIds = s.painterIds) :
    notifyPainters fns s' (hash.order (messages.foldl (retainMessage fns)
      ⟨s, ∅, []⟩).sawWebrenderFrameReadyForPainter.entries) = notified fns messages s' := by
  obtain ⟨-, -, hsaw⟩ := foldl_retainMessage fns messages ⟨s, ∅, []⟩
  generalize (messages.foldl (retainMessage fns) ⟨s, ∅, []⟩).sawWebrenderFrameReadyForPainter =
    saw at hsaw
  have hperm := hash.perm saw.entries
  have hkeys : (hash.order saw.entries).NodupKeys := (List.perm_nodupKeys hperm).mpr saw.nodupKeys
  rw [notifyPainters_eq hkeys, notified]
  refine modifyPainters_congr fun painterId hmem => ?_
  have hlookup : (hash.order saw.entries).dlookup painterId = saw.lookup painterId :=
    List.perm_dlookup painterId hkeys hperm
  rw [hlookup, hsaw, if_pos (h ▸ hmem), AList.lookup_empty, foldl_mergeFlag]

/-! ## The other messages -/

lemma KeepsRunning.head (h : KeepsRunning fns s messages) :
    fns.shutdownState s.world ≠ .finishedShuttingDown := by
  cases messages with
  | nil => exact h
  | cons message messages => exact h.1

/-- While the shutdown state does not become final, the loop is not left early. -/
lemma handleRetained_eq (h : KeepsRunning fns s messages) :
    handleRetained fns s messages =
      (messages.foldlM (handleBrowserMessage fns) s).map fun s => (false, s) := by
  induction messages generalizing s with
  | nil => rfl
  | cons message messages ih =>
      rw [handleRetained, List.foldlM_cons]
      cases hstep : handleBrowserMessage fns s message with
      | none => rfl
      | some mid =>
          have hmid : KeepsRunning fns mid messages := h.2 mid hstep
          exact (if_neg hmid.head).trans (ih hmid)

/-- The arm that should not be reached is reached by a frame that is ready only. -/
lemma isSome_handleBrowserMessage (fns : PaintFns T) (s : Paint T)
    (h : message.frameReady? = none) :
    (handleBrowserMessage fns s message).isSome := by
  rw [handleBrowserMessage]
  split
  · cases message <;> first | rfl | cases h
  · rfl
  · rfl

lemma isSome_foldlM_handleBrowserMessage (h : ∀ message ∈ messages, message.frameReady? = none) :
    (messages.foldlM (handleBrowserMessage fns) s).isSome := by
  induction messages generalizing s with
  | nil => rfl
  | cons message messages ih =>
      obtain ⟨mid, hstep⟩ := Option.isSome_iff_exists.mp
        (isSome_handleBrowserMessage fns s (h message List.mem_cons_self))
      rw [List.foldlM_cons, hstep]
      exact ih fun other hmem => h other (List.mem_cons_of_mem _ hmem)

lemma painterIds_keysFor {Key : Type} (generate : T.PainterState → Key × T.PainterState)
    (dummy : T.PainterId → ℕ → Key) (n : ℕ) :
    (keysFor generate dummy n painterId s).2.painterIds = s.painterIds := by
  rw [keysFor]
  split
  · rfl
  · exact painterIds_modifyPainter _

lemma painterIds_foldl_callPainter (call : PainterCall T) (ids : List T.PainterId) :
    (ids.foldl (fun s id => callPainter fns id call s) s).painterIds = s.painterIds := by
  induction ids generalizing s with
  | nil => rfl
  | cons id ids ih => rw [List.foldl_cons, ih, painterIds_callPainter]

lemma painterIds_handleGenerateImageKey (webviewId : T.WebViewId)
    (resultSender : T.ImageKeySender) :
    (handleGenerateImageKey fns s webviewId resultSender).painterIds = s.painterIds := by
  rw [handleGenerateImageKey]
  split
  · rfl
  · exact painterIds_modifyPainter _

lemma painterIds_handleGenerateFontKeys (n m : ℕ) (resultSender : T.FontKeysSender) :
    (handleGenerateFontKeys fns s n m resultSender painterId).painterIds = s.painterIds :=
  (painterIds_keysFor _ _ _).trans (painterIds_keysFor _ _ _)

/-- No message adds or removes a painter. -/
lemma painterIds_handleBrowserMessage (h : handleBrowserMessage fns s message = some s') :
    s'.painterIds = s.painterIds := by
  rw [handleBrowserMessage] at h
  split at h
  · cases message with
    | newWebRenderFrameReady => cases h
    | collectMemoryReport =>
        obtain rfl := Option.some.inj h
        rfl
    | generateFrame ids =>
        obtain rfl := Option.some.inj h
        exact painterIds_foldl_callPainter _ ids
    | generateImageKey =>
        obtain rfl := Option.some.inj h
        exact painterIds_handleGenerateImageKey _ _
    | generateImageKeysForPipeline =>
        obtain rfl := Option.some.inj h
        exact painterIds_keysFor _ _ _
    | generateFontKeys =>
        obtain rfl := Option.some.inj h
        exact painterIds_handleGenerateFontKeys _ _ _
    | _ =>
        obtain rfl := Option.some.inj h
        exact painterIds_callPainter _
  · cases message with
    | pipelineExited =>
        obtain rfl := Option.some.inj h
        exact painterIds_callPainter _
    | generateImageKey =>
        obtain rfl := Option.some.inj h
        exact painterIds_handleGenerateImageKey _ _
    | generateImageKeysForPipeline =>
        obtain rfl := Option.some.inj h
        exact painterIds_keysFor _ _ _
    | generateFontKeys =>
        obtain rfl := Option.some.inj h
        exact painterIds_handleGenerateFontKeys _ _ _
    | _ =>
        obtain rfl := Option.some.inj h
        rfl
  · obtain rfl := Option.some.inj h
    rfl

lemma painterIds_foldlM_handleBrowserMessage
    (h : messages.foldlM (handleBrowserMessage fns) s = some s') :
    s'.painterIds = s.painterIds := by
  induction messages generalizing s with
  | nil =>
      obtain rfl := Option.some.inj h
      rfl
  | cons message messages ih =>
      rw [List.foldlM_cons] at h
      obtain ⟨mid, hstep, hrest⟩ := Option.bind_eq_some_iff.mp h
      exact (ih hrest).trans (painterIds_handleBrowserMessage hstep)

/-! ## Painters that are not there -/

lemma foldl_callPainter_of_notMem {ids : List T.PainterId} (h : ∀ id ∈ ids, id ∉ s.painterIds)
    (call : PainterCall T) : ids.foldl (fun s id => callPainter fns id call s) s = s := by
  induction ids with
  | nil => rfl
  | cons id ids ih =>
      rw [List.foldl_cons, callPainter_of_notMem (h id List.mem_cons_self)]
      exact ih fun other hmem => h other (List.mem_cons_of_mem _ hmem)

/-- Among the painters of a `GenerateFrame`, those that are not there do not count. -/
lemma foldl_callPainter_filter (call : PainterCall T) (ids : List T.PainterId) :
    (ids.filter (· ∈ s.painterIds)).foldl (fun s id => callPainter fns id call s) s =
      ids.foldl (fun s id => callPainter fns id call s) s := by
  induction ids generalizing s with
  | nil => rfl
  | cons id ids ih =>
      rw [List.foldl_cons]
      by_cases hmem : id ∈ s.painterIds
      · rw [List.filter_cons_of_pos (by simpa using hmem), List.foldl_cons, ← ih,
          painterIds_callPainter]
      · rw [List.filter_cons_of_neg (by simpa using hmem), callPainter_of_notMem hmem]
        exact ih

lemma handleBrowserMessage_generateFrame (ids : List T.PainterId) :
    handleBrowserMessage fns s (.generateFrame (ids.filter (· ∈ s.painterIds))) =
      handleBrowserMessage fns s (.generateFrame ids) := by
  rw [handleBrowserMessage, handleBrowserMessage]
  split
  · exact congrArg some (foldl_callPainter_filter _ ids)
  · rfl
  · rfl

lemma keysFor_of_notMem {Key : Type} (generate : T.PainterState → Key × T.PainterState)
    (dummy : T.PainterId → ℕ → Key) (n : ℕ) (h : painterId ∉ s.painterIds) :
    keysFor generate dummy n painterId s = (List.replicate n (dummy painterId 0), s) := by
  rw [keysFor, maybePainter_eq_none_iff.mpr h]

lemma handleGenerateImageKey_of_notMem {webviewId : T.WebViewId} (resultSender : T.ImageKeySender)
    (h : fns.painterIdOf webviewId ∉ s.painterIds) :
    handleGenerateImageKey fns s webviewId resultSender =
      send (.imageKey resultSender (fns.imageKey (fns.painterIdOf webviewId) 0)) s := by
  rw [handleGenerateImageKey, maybePainter_eq_none_iff.mpr h]

lemma handleGenerateImageKeysForPipeline_of_notMem {webviewId : T.WebViewId}
    (pipelineId : T.PipelineId) (h : fns.painterIdOf webviewId ∉ s.painterIds) :
    handleGenerateImageKeysForPipeline fns s webviewId pipelineId =
      send (.sendImageKeysForPipeline pipelineId (List.replicate fns.imageKeyBatchSize.toNat
        (fns.imageKey (fns.painterIdOf webviewId) 0))) s := by
  rw [handleGenerateImageKeysForPipeline, keysFor_of_notMem _ _ _ h]

lemma handleGenerateFontKeys_of_notMem (n m : ℕ) (resultSender : T.FontKeysSender)
    (h : painterId ∉ s.painterIds) :
    handleGenerateFontKeys fns s n m resultSender painterId =
      send (.fontKeys resultSender (List.replicate n (fns.fontKey painterId 0))
        (List.replicate m (fns.fontInstanceKey painterId 0))) s := by
  simp only [handleGenerateFontKeys, keysFor_of_notMem _ _ _ h]

/-- A message that names only painters that are not there changes nothing, and the requests for
keys are answered. -/
lemma handleBrowserMessage_of_unknown (hrun : fns.shutdownState s.world ≠ .finishedShuttingDown)
    (hother : message.frameReady? = none) (hnamed : message.named fns ≠ [])
    (hunknown : ∀ id ∈ message.named fns, id ∉ s.painterIds) :
    handleBrowserMessage fns s message =
      some { s with sent := s.sent ++ message.dummyReply fns } := by
  have hsent : some s = some { s with sent := s.sent ++ [] } := by rw [List.append_nil]
  rw [handleBrowserMessage]
  split
  · cases message with
    | newWebRenderFrameReady => cases hother
    | collectMemoryReport => exact absurd rfl hnamed
    | generateFrame ids =>
        exact (congrArg some (foldl_callPainter_of_notMem hunknown _)).trans hsent
    | generateImageKey =>
        exact congrArg some (handleGenerateImageKey_of_notMem _ (hunknown _ List.mem_cons_self))
    | generateImageKeysForPipeline =>
        exact congrArg some
          (handleGenerateImageKeysForPipeline_of_notMem _ (hunknown _ List.mem_cons_self))
    | generateFontKeys =>
        exact congrArg some
          (handleGenerateFontKeys_of_notMem _ _ _ (hunknown _ List.mem_cons_self))
    | _ =>
        exact (congrArg some (callPainter_of_notMem (hunknown _ List.mem_cons_self) _)).trans hsent
  · cases message with
    | newWebRenderFrameReady => cases hother
    | collectMemoryReport => exact absurd rfl hnamed
    | pipelineExited =>
        exact (congrArg some (callPainter_of_notMem (hunknown _ List.mem_cons_self) _)).trans hsent
    | generateImageKey =>
        exact congrArg some (handleGenerateImageKey_of_notMem _ (hunknown _ List.mem_cons_self))
    | generateImageKeysForPipeline =>
        exact congrArg some
          (handleGenerateImageKeysForPipeline_of_notMem _ (hunknown _ List.mem_cons_self))
    | generateFontKeys =>
        exact congrArg some
          (handleGenerateFontKeys_of_notMem _ _ _ (hunknown _ List.mem_cons_self))
    | _ => exact hsent
  next h => exact absurd h hrun

lemma idle_congr (h : s'.painterIds = s.painterIds) : Idle fns s' message ↔ Idle fns s message := by
  rw [Idle, Idle, h]

/-- Idle messages can be left out. -/
lemma foldlM_filter_idle (hids : s'.painterIds = s.painterIds) (hrun : KeepsRunning fns s' messages)
    (hother : ∀ message ∈ messages, message.frameReady? = none) :
    (messages.filter fun message => ¬ Idle fns s message).foldlM (handleBrowserMessage fns) s' =
        messages.foldlM (handleBrowserMessage fns) s' ∧
      KeepsRunning fns s' (messages.filter fun message => ¬ Idle fns s message) := by
  induction messages generalizing s' with
  | nil => exact ⟨rfl, hrun⟩
  | cons message messages ih =>
      have htail : ∀ other ∈ messages, other.frameReady? = none := fun other hmem =>
        hother other (List.mem_cons_of_mem _ hmem)
      by_cases hidle : Idle fns s message
      · obtain ⟨hnamed, hunknown, hreply⟩ := (idle_congr hids).mpr hidle
        have hstep : handleBrowserMessage fns s' message = some s' := by
          rw [handleBrowserMessage_of_unknown hrun.1 (hother message List.mem_cons_self) hnamed
            hunknown, hreply, List.append_nil]
        rw [List.filter_cons_of_neg (by simpa using hidle), List.foldlM_cons, hstep]
        exact ih hids (hrun.2 s' hstep) htail
      · rw [List.filter_cons_of_pos (by simpa using hidle), List.foldlM_cons, List.foldlM_cons]
        refine ⟨?_, hrun.1, fun mid hstep => ?_⟩
        · cases hstep : handleBrowserMessage fns s' message with
          | none => rfl
          | some mid =>
              have hmid := (painterIds_handleBrowserMessage hstep).trans hids
              exact (ih hmid (hrun.2 mid hstep) htail).1
        · have hmid := (painterIds_handleBrowserMessage hstep).trans hids
          exact (ih hmid (hrun.2 mid hstep) htail).2

lemma needRepaints_filter_idle (hmem : painterId ∈ s.painterIds) :
    needRepaints (messages.filter fun message => ¬ Idle fns s message) painterId =
      needRepaints messages painterId := by
  rw [needRepaints, List.filterMap_filter, needRepaints]
  refine List.filterMap_congr fun message _ => ?_
  split
  next => rfl
  next hidle =>
    simp only [decide_not, Bool.not_eq_true', decide_eq_false_iff_not, not_not] at hidle
    cases h : message.frameReady? with
    | none => rfl
    | some frame =>
        have hnamed : frame.1 ∈ message.named fns := by
          cases message <;> cases h
          exact List.mem_cons_self
        exact (if_neg (ne_of_mem_of_not_mem hmem (hidle.2.1 _ hnamed)).symm).symm

/-! ## Whole batches -/

lemma painterIds_decremented : (decremented fns messages s).painterIds = s.painterIds :=
  painterIds_modifyPainters _

lemma decremented_congr (fns : PaintFns T)
    (h : ∀ id ∈ s.painterIds, (needRepaints messages' id).Perm (needRepaints messages id)) :
    decremented fns messages' s = decremented fns messages s := by
  refine modifyPainters_congr fun id hmem => ?_
  rw [(h id hmem).length_eq]

lemma notify_perm {needs needs' : List Bool} (h : needs'.Perm needs) :
    notify fns needs' = notify fns needs := by
  rw [← foldl_mergeFlag, ← foldl_mergeFlag]
  congr 1
  refine h.foldl_eq' (fun b _ c _ saw => ?_) none
  simp only [mergeFlag, Option.getD_some]
  cases saw <;> cases b <;> cases c <;> simp

lemma notified_congr (hids : s'.painterIds = s.painterIds)
    (h : ∀ id ∈ s.painterIds, (needRepaints messages' id).Perm (needRepaints messages id)) :
    notified fns messages' s' = notified fns messages s' :=
  modifyPainters_congr fun id hmem => notify_perm (h id (hids ▸ hmem))

/-- A batch decrements, handles the other messages in their order, and then notifies. -/
lemma handleMessages_eq (hash : IterationOrder T.PainterId Bool)
    (hrun : KeepsRunning fns (decremented fns messages s) (otherMessages messages)) :
    handleMessages fns hash s messages =
      ((otherMessages messages).foldlM (handleBrowserMessage fns)
        (decremented fns messages s)).map (notified fns messages) := by
  obtain ⟨hpaint, hmessages, -⟩ :=
    foldl_retainMessage fns messages ⟨s, ∅, []⟩
  rw [handleMessages, hpaint, hmessages, List.nil_append, handleRetained_eq hrun]
  cases hfinal : (otherMessages messages).foldlM (handleBrowserMessage fns)
      (decremented fns messages s) with
  | none => rfl
  | some final =>
      have hids : final.painterIds = s.painterIds :=
        (painterIds_foldlM_handleBrowserMessage hfinal).trans painterIds_decremented
      exact congrArg some (notifyPainters_retained hash hids)

/-- Two batches with the same flags for the painters that are there leave the same when their other
messages do. -/
lemma handleMessages_congr (hash hash' : IterationOrder T.PainterId Bool)
    (hrun : KeepsRunning fns (decremented fns messages s) (otherMessages messages))
    (hrun' : KeepsRunning fns (decremented fns messages s) (otherMessages messages'))
    (hothers : (otherMessages messages').foldlM (handleBrowserMessage fns)
        (decremented fns messages s) =
      (otherMessages messages).foldlM (handleBrowserMessage fns) (decremented fns messages s))
    (hflags : ∀ id ∈ s.painterIds, (needRepaints messages' id).Perm (needRepaints messages id)) :
    handleMessages fns hash' s messages' = handleMessages fns hash s messages := by
  have hdecremented := decremented_congr fns hflags
  rw [handleMessages_eq hash hrun, handleMessages_eq hash' (by rwa [hdecremented]), hdecremented,
    hothers]
  refine Option.map_congr fun final hfinal => ?_
  exact notified_congr ((painterIds_foldlM_handleBrowserMessage hfinal).trans
    painterIds_decremented) hflags

lemma handleMessages_filter_idle (hash : IterationOrder T.PainterId Bool)
    (hrun : KeepsRunning fns (decremented fns messages s) (otherMessages messages)) :
    handleMessages fns hash s (messages.filter fun message => ¬ Idle fns s message) =
      handleMessages fns hash s messages := by
  have hnone : ∀ message ∈ otherMessages messages, message.frameReady? = none := fun message h =>
    Option.isNone_iff_eq_none.mp (List.mem_filter.mp h).2
  have hothers : otherMessages (messages.filter fun message => ¬ Idle fns s message) =
      (otherMessages messages).filter fun message => ¬ Idle fns s message := by
    rw [otherMessages, otherMessages, List.filter_comm]
  obtain ⟨hsame, hrun'⟩ := foldlM_filter_idle painterIds_decremented hrun hnone
  rw [← hothers] at hsame hrun'
  exact handleMessages_congr hash hash hrun hrun' hsame fun id hmem =>
    .of_eq (needRepaints_filter_idle hmem)

/-- The frames of a batch count wherever they stand: every painter that is found decrements once
for each of its frames, the other messages are handled in their order, and every painter with frames
is notified once, of the disjunction of their flags.  The arm that should not be reached is not
reached, neither the positions of the frames nor the order of the map matter, and messages that name
only painters that are not there change nothing, except that requests for keys are answered by keys
with the number 0. -/
theorem handleMessages_coalesces (fns : PaintFns T) (hash : IterationOrder T.PainterId Bool)
    (s : Paint T) (messages : List (PaintMessage T))
    (hrun : KeepsRunning fns (decremented fns messages s) (otherMessages messages)) :
    handleMessages fns hash s messages =
        ((otherMessages messages).foldlM (handleBrowserMessage fns)
          (decremented fns messages s)).map (notified fns messages) ∧
      (handleMessages fns hash s messages).isSome ∧
      (∀ hash' messages', messages'.Perm messages →
        otherMessages messages' = otherMessages messages →
          handleMessages fns hash' s messages' = handleMessages fns hash s messages) ∧
      handleMessages fns hash s (messages.filter fun message => ¬ Idle fns s message) =
        handleMessages fns hash s messages ∧
      (∀ s message, fns.shutdownState s.world ≠ .finishedShuttingDown →
        message.frameReady? = none → message.named fns ≠ [] →
        (∀ painterId ∈ message.named fns, painterId ∉ s.painterIds) →
          handleBrowserMessage fns s message =
            some { s with sent := s.sent ++ message.dummyReply fns }) ∧
      ∀ s ids, handleBrowserMessage fns s (.generateFrame (ids.filter (· ∈ s.painterIds))) =
        handleBrowserMessage fns s (.generateFrame ids) := by
  refine ⟨handleMessages_eq hash hrun, ?_, fun hash' messages' hperm hothers => ?_,
    handleMessages_filter_idle hash hrun,
    fun s message hstate hother hnamed => handleBrowserMessage_of_unknown hstate hother hnamed,
    fun s ids => handleBrowserMessage_generateFrame ids⟩
  · rw [handleMessages_eq hash hrun, Option.isSome_map]
    exact isSome_foldlM_handleBrowserMessage fun message h =>
      Option.isNone_iff_eq_none.mp (List.mem_filter.mp h).2
  · exact handleMessages_congr hash hash' hrun (hothers ▸ hrun) (by rw [hothers]) fun id _ =>
      hperm.filterMap _

/-! ## Two painters -/

def demoOrder : IterationOrder ℕ Bool := ⟨List.reverse, fun entries => entries.reverse_perm⟩

/-- Two painters with three pending frames each. -/
def demoPaint : Paint demoTypes where
  painters := [⟨0, 7, ⟨[], 3, [], 1⟩⟩, ⟨1, 8, ⟨[], 3, [], 1⟩⟩]
  painterSurfmanDetailsMap := ∅
  sent := []
  world := ()
  created := 2

def demoBatch : List (PaintMessage demoTypes) :=
  [.newWebRenderFrameReady 0 0 false, .generateFrame [1, 5], .newWebRenderFrameReady 9 0 true,
    .newWebRenderFrameReady 1 0 false, .newWebRenderFrameReady 0 0 true]

lemma keepsRunning_demo (s : Paint demoTypes) (messages : List (PaintMessage demoTypes)) :
    KeepsRunning demoFns s messages := by
  induction messages generalizing s with
  | nil => exact ShutdownState.noConfusion
  | cons message messages ih => exact ⟨ShutdownState.noConfusion, fun s' _ => ih s'⟩

theorem handleMessages_coalesces_twoPainters :
    handleMessages demoFns demoOrder demoPaint demoBatch.reverse =
        handleMessages demoFns demoOrder demoPaint demoBatch ∧
      (handleMessages demoFns demoOrder demoPaint demoBatch).map
          (fun s => s.painters.map Painter.state) =
        some [⟨[], 1, [true], 1⟩, ⟨[], 3, [false], 1⟩] :=
  ⟨(handleMessages_coalesces demoFns demoOrder demoPaint demoBatch
    (keepsRunning_demo _ _)).2.2.1 demoOrder _ (List.reverse_perm _) rfl, by decide⟩

/-- A request for a key that names a painter that is not there is answered. -/
theorem handleMessages_answers_unknown :
    ¬ ∀ (s : Paint demoTypes) (message : PaintMessage demoTypes)
        (messages : List (PaintMessage demoTypes)), message.named demoFns ≠ [] →
      (∀ painterId ∈ message.named demoFns, painterId ∉ s.painterIds) →
        handleMessages demoFns demoOrder s (message :: messages) =
          handleMessages demoFns demoOrder s messages := by
  intro h
  have hsame := h demoPaint (.generateImageKey (5, 0) 3) [] (by decide) (by decide)
  have hlengths := congrArg (Option.map fun s => s.sent.length) hsame
  revert hlengths
  decide

end Paint

end TorOnion
