import Mathlib.Data.Set.Insert
import TorOnion.Paint.Painters

/-!
# The registry of painters over runs

Contexts are registered, webviews come and go, in any order.  What the registry promises is stated
against the webviews that are open, which only the calls determine (`openWebviews`): a painter holds
the open webviews that name it.  `Registered` is the invariant, and every call keeps it
(`registered_step`).

A painter whose context has been registered has no webview yet, and it stays until a webview is
removed from it.  It then goes when no webview is left, also when the webview that was removed had
never been added (`registry_drops_unused`).
-/

namespace TorOnion

/-- A call that changes the registry. -/
inductive RegistryOp (T : PaintTypes)
  | registerRenderingContext (renderingContext : T.RenderingContext)
  | addWebview (webview : T.WebView) (viewportDetails : T.ViewportDetails)
  | removeWebview (webviewId : T.WebViewId)

/-- What the registry relies on: a painter holds a set of webviews. -/
structure PainterWebviews {T : PaintTypes} (fns : PaintFns T) where
  webviews : T.PainterState → Set T.WebViewId
  new : ∀ renderingContext world,
    webviews (fns.newPainter renderingContext world).1 = ∅
  add : ∀ webview viewportDetails state world,
    webviews (fns.call (.addWebview webview viewportDetails) state world).1 =
      insert (fns.webviewId webview) (webviews state)
  remove : ∀ webviewId state world,
    webviews (fns.call (.removeWebview webviewId) state world).1 = webviews state \ {webviewId}
  isEmpty : ∀ state, fns.isEmpty state = true ↔ webviews state = ∅

namespace Paint

variable {T : PaintTypes} (fns : PaintFns T)

/-- One call.  There is no result where the call panics. -/
def registryStep (s : Paint T) : RegistryOp T → Option (Paint T)
  | .registerRenderingContext renderingContext =>
      (registerRenderingContext fns s renderingContext).map Prod.snd
  | .addWebview webview viewportDetails => addWebview fns s webview viewportDetails
  | .removeWebview webviewId => removeWebview fns s webviewId

/-- What a call does to the webviews that are open. -/
def openStep (held : Set T.WebViewId) : RegistryOp T → Set T.WebViewId
  | .registerRenderingContext _ => held
  | .addWebview webview _ => insert (fns.webviewId webview) held
  | .removeWebview webviewId => held \ {webviewId}

/-- The webviews that have been added and not been removed since. -/
def openWebviews (ops : List (RegistryOp T)) : Set T.WebViewId :=
  ops.foldl (openStep fns) ∅

variable {fns} {s s' : Paint T} {held held' : Set T.WebViewId} {painterId : T.PainterId}
  {painter : Painter T} {renderingContext : T.RenderingContext} {webviewId : T.WebViewId}

/-! ## What one call does -/

lemma painters_modifyPainter (hids : s.painterIds.Nodup) (h : T.PainterState → T.PainterState) :
    (modifyPainter painterId h s).painters = s.painters.map fun painter =>
      if painter.painterId = painterId then painter.mapState h else painter := by
  rw [modifyPainter_eq_modifyPainters, painters_modifyPainters hids]
  refine List.map_congr_left fun painter _ => ?_
  split
  next heq => rw [heq, Function.update_self]
  next hne =>
    rw [Function.update_of_ne hne]
    rfl

/-- The other painters are not changed. -/
lemma filter_modifyPainter (hids : s.painterIds.Nodup) (h : T.PainterState → T.PainterState) :
    (modifyPainter painterId h s).painters.filter (·.painterId ≠ painterId) =
      s.painters.filter (·.painterId ≠ painterId) := by
  rw [painters_modifyPainter hids, List.filter_map]
  have hsame : ∀ painter : Painter T, (if painter.painterId = painterId then
      painter.mapState h else painter).painterId = painter.painterId := by
    intro painter
    split <;> rfl
  rw [List.filter_congr (q := (·.painterId ≠ painterId)) fun painter _ => by simp [hsame]]
  refine (List.map_congr_left fun painter hmem => ?_).trans (List.map_id _)
  rw [if_neg (by simpa using (List.mem_filter.mp hmem).2), id]

lemma callPainter_painters (hids : s.painterIds.Nodup)
    (hfind : s.maybePainter painterId = some painter) (call : PainterCall T) :
    (callPainter fns painterId call s).painters = s.painters.map fun other =>
      if other.painterId = painterId then
        other.mapState fun _ => (fns.call call painter.state s.world).1 else other := by
  rw [callPainter_of_some hfind, painters_setWorld, painters_modifyPainter hids]

lemma callPainter_details (call : PainterCall T) :
    (callPainter fns painterId call s).painterSurfmanDetailsMap = s.painterSurfmanDetailsMap ∧
      (callPainter fns painterId call s).created = s.created := by
  rw [callPainter]
  split <;> exact ⟨rfl, rfl⟩

lemma removeWebview_eq_some (h : removeWebview fns s webviewId = some s') :
    ∃ painter, s.maybePainter (fns.painterIdOf webviewId) = some painter ∧
      let called := callPainter fns (fns.painterIdOf webviewId) (.removeWebview webviewId) s
      s' = if fns.isEmpty (fns.call (.removeWebview webviewId) painter.state s.world).1 then
        removePainter (fns.painterIdOf webviewId) called else called := by
  obtain ⟨painter, hfind, hrest⟩ := Option.bind_eq_some_iff.mp h
  refine ⟨painter, hfind, ?_⟩
  have hcases : (if fns.isEmpty (fns.call (.removeWebview webviewId) painter.state s.world).1 then
      some (removePainter (fns.painterIdOf webviewId)
        (callPainter fns (fns.painterIdOf webviewId) (.removeWebview webviewId) s))
      else some (callPainter fns (fns.painterIdOf webviewId) (.removeWebview webviewId) s)) =
        some s' := by
    rw [callPainter_of_some hfind]
    exact hrest
  rw [← apply_ite some] at hcases
  exact (Option.some.inj hcases).symm

/-- A context that is registered is found, and nothing changes. -/
lemma registerRenderingContext_of_mem (hcontexts : (s.painters.map Painter.renderingContext).Nodup)
    (hmem : painter ∈ s.painters) :
    registerRenderingContext fns s painter.renderingContext = some (painter.painterId, s) := by
  have hfind : (s.painters.findSome? fun other =>
      if other.renderingContext = painter.renderingContext then some other.painterId else none) =
        some painter.painterId := by
    generalize s.painters = painters at hcontexts hmem
    induction painters with
    | nil => cases hmem
    | cons other painters ih =>
        obtain ⟨hnew, htail⟩ := List.nodup_cons.mp hcontexts
        rcases List.mem_cons.mp hmem with rfl | hold
        · rw [List.findSome?_cons, if_pos rfl]
        · have hne : other.renderingContext ≠ painter.renderingContext := fun heq =>
            hnew (heq ▸ List.mem_map_of_mem hold)
          rw [List.findSome?_cons, if_neg hne]
          exact ih htail hold
  rw [registerRenderingContext, hfind]

lemma registerRenderingContext_of_notMem
    (hnew : renderingContext ∉ s.painters.map Painter.renderingContext)
    {result : T.PainterId × Paint T}
    (h : registerRenderingContext fns s renderingContext = some result) :
    ∃ details, result = (fns.newPainterId s.created,
      { s with
        painterSurfmanDetailsMap :=
          s.painterSurfmanDetailsMap.insert (fns.newPainterId s.created) details
        painters := s.painters ++ [⟨fns.newPainterId s.created, renderingContext,
          (fns.newPainter renderingContext s.world).1⟩]
        world := (fns.newPainter renderingContext s.world).2
        created := s.created + 1 }) := by
  have hfind : (s.painters.findSome? fun other =>
      if other.renderingContext = renderingContext then some other.painterId else none) = none := by
    refine List.findSome?_eq_none_iff.mpr fun other hmem => if_neg fun heq => hnew ?_
    exact heq ▸ List.mem_map_of_mem hmem
  rw [registerRenderingContext, hfind] at h
  obtain ⟨connection, -, h⟩ := Option.bind_eq_some_iff.mp h
  obtain ⟨adapter, -, h⟩ := Option.bind_eq_some_iff.mp h
  exact ⟨⟨connection, adapter⟩, (Option.some.inj h).symm⟩

/-! ## The invariant -/

/-- What holds of the registry when these webviews are open. -/
structure Registered (laws : PainterWebviews fns) (held : Set T.WebViewId) (s : Paint T) :
    Prop where
  ids_nodup : s.painterIds.Nodup
  contexts_nodup : (s.painters.map Painter.renderingContext).Nodup
  details : ∀ painterId, painterId ∈ s.painterSurfmanDetailsMap ↔ painterId ∈ s.painterIds
  /-- An id that has not been handed out stands nowhere. -/
  fresh : ∀ n, s.created ≤ n → fns.newPainterId n ∉ s.painterIds
  webviews : ∀ painter ∈ s.painters,
    laws.webviews painter.state = {w ∈ held | fns.painterIdOf w = painter.painterId}
  /-- The painter of an open webview is there. -/
  owned : ∀ w ∈ held, fns.painterIdOf w ∈ s.painterIds

variable {laws : PainterWebviews fns}

lemma registered_new (world : T.World) : Registered laws ∅ (new world) where
  ids_nodup := List.nodup_nil
  contexts_nodup := List.nodup_nil
  details := by simp [new, painterIds]
  fresh := by simp [new, painterIds]
  webviews := by simp [new]
  owned := by simp

/-- A new painter has a fresh id, a new context, an entry and no webview. -/
lemma Registered.register (h : Registered laws held s)
    (hnew : renderingContext ∉ s.painters.map Painter.renderingContext)
    {result : T.PainterId × Paint T}
    (hresult : registerRenderingContext fns s renderingContext = some result) :
    Registered laws held result.2 := by
  obtain ⟨details, rfl⟩ := registerRenderingContext_of_notMem hnew hresult
  have hfresh := h.fresh s.created le_rfl
  have hids : ∀ painters : List (Painter T), ∀ painter : Painter T,
      (painters ++ [painter]).map Painter.painterId =
        painters.map Painter.painterId ++ [painter.painterId] := by simp
  refine ⟨?_, ?_, fun painterId => ?_, fun n hn => ?_, fun painter hmem => ?_, fun w hw => ?_⟩
  · rw [painterIds, hids, ← List.concat_eq_append]
    exact h.ids_nodup.concat hfresh
  · rw [List.map_append, List.map_singleton, ← List.concat_eq_append]
    exact h.contexts_nodup.concat hnew
  · rw [painterIds, hids, List.mem_append, AList.mem_insert, h.details, painterIds,
      List.mem_singleton, or_comm]
  · rw [painterIds, hids, List.mem_append, List.mem_singleton, not_or]
    refine ⟨h.fresh n (by simp only at hn; omega), fun heq => ?_⟩
    have := fns.newPainterId_injective heq
    simp only at hn
    omega
  · rcases List.mem_append.mp hmem with hold | hlast
    · exact h.webviews painter hold
    · obtain rfl := List.mem_singleton.mp hlast
      rw [laws.new]
      refine (Set.eq_empty_of_forall_notMem fun w hw => hfresh ?_).symm
      have hid : fns.painterIdOf w = fns.newPainterId s.created := hw.2
      exact hid ▸ h.owned w hw.1
  · rw [painterIds, hids]
    exact List.mem_append_left _ (h.owned w hw)

/-- A call that changes which webviews of one painter are open. -/
lemma Registered.call (h : Registered laws held s)
    (hfind : s.maybePainter painterId = some painter) (call : PainterCall T)
    (hother : ∀ w, fns.painterIdOf w ≠ painterId → (w ∈ held' ↔ w ∈ held))
    (hwebviews : laws.webviews (fns.call call painter.state s.world).1 =
      {w ∈ held' | fns.painterIdOf w = painterId}) :
    Registered laws held' (callPainter fns painterId call s) := by
  obtain ⟨hdetails, hcreated⟩ : _ ∧ (callPainter fns painterId call s).created = s.created :=
    callPainter_details call
  refine ⟨?_, ?_, fun id => ?_, fun n hn => ?_, fun other hmem => ?_, fun w hw => ?_⟩
  · rw [painterIds_callPainter]
    exact h.ids_nodup
  · have hcontexts : (callPainter fns painterId call s).painters.map Painter.renderingContext =
        s.painters.map Painter.renderingContext := by
      rw [callPainter_painters h.ids_nodup hfind, List.map_map]
      refine List.map_congr_left fun other _ => ?_
      rw [Function.comp_apply]
      split <;> rfl
    rw [hcontexts]
    exact h.contexts_nodup
  · rw [hdetails, painterIds_callPainter, h.details]
  · rw [painterIds_callPainter]
    exact h.fresh n (hcreated ▸ hn)
  · rw [callPainter_painters h.ids_nodup hfind] at hmem
    obtain ⟨old, hold, rfl⟩ := List.mem_map.mp hmem
    split
    next heq => exact hwebviews.trans (by rw [← heq]; rfl)
    next hne =>
      rw [h.webviews old hold]
      ext w
      refine and_congr_left fun hid => (hother w ?_).symm
      rwa [hid]
  · rw [painterIds_callPainter]
    rcases eq_or_ne (fns.painterIdOf w) painterId with heq | hne
    · rw [heq]
      exact mem_painterIds_of_maybePainter hfind
    · exact h.owned w ((hother w hne).mp hw)

/-- A painter without open webviews goes, with its entry. -/
lemma Registered.remove (h : Registered laws held s)
    (hempty : ∀ w ∈ held, fns.painterIdOf w ≠ painterId) :
    Registered laws held (removePainter painterId s) := by
  have hmem : ∀ id, id ∈ (removePainter painterId s).painterIds ↔
      id ∈ s.painterIds ∧ id ≠ painterId := by
    intro id
    simp only [removePainter, painterIds, List.mem_map, List.mem_filter, decide_eq_true_eq]
    constructor
    · rintro ⟨painter, ⟨hold, hne⟩, rfl⟩
      exact ⟨⟨painter, hold, rfl⟩, hne⟩
    · rintro ⟨⟨painter, hold, rfl⟩, hne⟩
      exact ⟨painter, ⟨hold, hne⟩, rfl⟩
  have hsub : (removePainter painterId s).painters.Sublist s.painters := List.filter_sublist
  refine ⟨?_, ?_, fun id => ?_, fun n hn hid => ?_, fun painter hp => ?_, fun w hw => ?_⟩
  · exact h.ids_nodup.sublist (hsub.map _)
  · exact h.contexts_nodup.sublist (hsub.map _)
  · rw [hmem, ← h.details, removePainter, AList.mem_erase, and_comm]
  · exact h.fresh n hn ((hmem _).mp hid).1
  · exact h.webviews painter (hsub.mem hp)
  · exact (hmem _).mpr ⟨h.owned w hw, hempty w hw⟩

/-- What `Painter::remove_webview` leaves are the webviews of the painter that are still open. -/
lemma Registered.webviews_removed (h : Registered laws held s)
    (hfind : s.maybePainter (fns.painterIdOf webviewId) = some painter) :
    laws.webviews (fns.call (.removeWebview webviewId) painter.state s.world).1 =
      {w ∈ held \ {webviewId} | fns.painterIdOf w = fns.painterIdOf webviewId} := by
  obtain ⟨hmem, hid⟩ := mem_of_maybePainter hfind
  rw [laws.remove, h.webviews painter hmem, hid]
  ext w
  exact and_right_comm

/-- The painter is empty when no webview of it is open any more. -/
lemma Registered.isEmpty_iff (h : Registered laws held s)
    (hfind : s.maybePainter (fns.painterIdOf webviewId) = some painter) :
    fns.isEmpty (fns.call (.removeWebview webviewId) painter.state s.world).1 = true ↔
      ∀ w ∈ held \ {webviewId}, fns.painterIdOf w ≠ fns.painterIdOf webviewId := by
  rw [laws.isEmpty, h.webviews_removed hfind, Set.sep_eq_empty_iff_mem_false]

lemma Registered.removeWebview (h : Registered laws held s)
    (hstep : removeWebview fns s webviewId = some s') :
    Registered laws (held \ {webviewId}) s' := by
  obtain ⟨painter, hfind, rfl⟩ := removeWebview_eq_some hstep
  have hcalled : Registered laws (held \ {webviewId})
      (callPainter fns (fns.painterIdOf webviewId) (.removeWebview webviewId) s) := by
    refine h.call hfind _ (fun w hne => ?_) (h.webviews_removed hfind)
    exact and_iff_left fun heq => hne (congrArg fns.painterIdOf heq)
  split
  next hempty => exact hcalled.remove ((h.isEmpty_iff hfind).mp hempty)
  next => exact hcalled

lemma registered_step {op : RegistryOp T} (h : Registered laws held s)
    (hstep : registryStep fns s op = some s') : Registered laws (openStep fns held op) s' := by
  cases op with
  | registerRenderingContext renderingContext =>
      obtain ⟨result, hresult, rfl⟩ := Option.map_eq_some_iff.mp hstep
      by_cases hmem : renderingContext ∈ s.painters.map Painter.renderingContext
      · obtain ⟨painter, hpainter, rfl⟩ := List.mem_map.mp hmem
        rw [registerRenderingContext_of_mem h.contexts_nodup hpainter] at hresult
        obtain rfl := Option.some.inj hresult
        exact h
      · exact h.register hmem hresult
  | addWebview webview viewportDetails =>
      obtain ⟨painter, hfind, rfl⟩ := Option.map_eq_some_iff.mp hstep
      obtain ⟨hmem, hid⟩ := mem_of_maybePainter hfind
      refine h.call hfind _ (fun w hne => ?_) ?_
      · exact or_iff_right fun heq => hne (congrArg fns.painterIdOf heq)
      · rw [laws.add, h.webviews painter hmem, hid]
        ext w
        constructor
        · rintro (rfl | ⟨hheld, hw⟩)
          · exact ⟨.inl rfl, rfl⟩
          · exact ⟨.inr hheld, hw⟩
        · rintro ⟨rfl | hheld, hw⟩
          · exact .inl rfl
          · exact .inr ⟨hheld, hw⟩
  | removeWebview webviewId => exact h.removeWebview hstep

lemma registered_of_run {ops : List (RegistryOp T)} (h : Registered laws held s)
    (hrun : ops.foldlM (registryStep fns) s = some s') :
    Registered laws (ops.foldl (openStep fns) held) s' := by
  induction ops generalizing s held with
  | nil =>
      obtain rfl := Option.some.inj hrun
      exact h
  | cons op ops ih =>
      rw [List.foldlM_cons] at hrun
      obtain ⟨mid, hstep, hrest⟩ := Option.bind_eq_some_iff.mp hrun
      exact ih (registered_step h hstep) hrest

/-! ## Runs -/

/-- Removing a webview, when these webviews are open. -/
lemma Registered.removeWebview_spec (h : Registered laws held s)
    (hstep : Paint.removeWebview fns s webviewId = some s') :
    fns.painterIdOf webviewId ∈ s.painterIds ∧
      (fns.painterIdOf webviewId ∉ s'.painterIds ↔
        ∀ w ∈ held \ {webviewId}, fns.painterIdOf w ≠ fns.painterIdOf webviewId) ∧
      s'.painters.filter (·.painterId ≠ fns.painterIdOf webviewId) =
        s.painters.filter (·.painterId ≠ fns.painterIdOf webviewId) ∧
      ∀ painterId, painterId ≠ fns.painterIdOf webviewId →
        s'.painterSurfmanDetailsMap.lookup painterId =
          s.painterSurfmanDetailsMap.lookup painterId := by
  obtain ⟨painter, hfind, rfl⟩ := removeWebview_eq_some hstep
  have hmem := mem_painterIds_of_maybePainter hfind
  have hothers : (callPainter fns (fns.painterIdOf webviewId) (.removeWebview webviewId)
      s).painters.filter (·.painterId ≠ fns.painterIdOf webviewId) =
        s.painters.filter (·.painterId ≠ fns.painterIdOf webviewId) := by
    rw [callPainter_of_some hfind, painters_setWorld]
    exact filter_modifyPainter h.ids_nodup _
  obtain ⟨hdetails, -⟩ : (callPainter fns (fns.painterIdOf webviewId) (.removeWebview webviewId)
      s).painterSurfmanDetailsMap = s.painterSurfmanDetailsMap ∧ _ := callPainter_details _
  refine ⟨hmem, ?_, ?_, fun painterId hne => ?_⟩
  · rw [← h.isEmpty_iff hfind]
    split
    next hempty => simp [hempty, removePainter, painterIds]
    next hsome => simp [hsome, hmem]
  · split
    · rw [removePainter, List.filter_filter]
      simpa using hothers
    · exact hothers
  · split
    · rw [removePainter, AList.lookup_erase_ne hne, hdetails]
    · rw [hdetails]

/-- After every sequence of calls, ids and contexts are distinct and exactly the registered ids have
an entry; a registered context keeps its id; and removing a webview removes its painter, with the
entry, exactly when no webview of the painter is open any more, and touches no other painter. -/
theorem registry_kept (fns : PaintFns T) (laws : PainterWebviews fns) (world : T.World)
    (ops : List (RegistryOp T)) (s : Paint T)
    (hrun : ops.foldlM (registryStep fns) (new world) = some s) :
    s.painterIds.Nodup ∧
      (s.painters.map Painter.renderingContext).Nodup ∧
      (∀ painterId, painterId ∈ s.painterSurfmanDetailsMap ↔ painterId ∈ s.painterIds) ∧
      (∀ painter ∈ s.painters,
        registerRenderingContext fns s painter.renderingContext = some (painter.painterId, s)) ∧
      ∀ webviewId s', Paint.removeWebview fns s webviewId = some s' →
        let painterId := fns.painterIdOf webviewId
        let gone := ∀ w ∈ openWebviews fns (ops ++ [.removeWebview webviewId]),
          fns.painterIdOf w ≠ painterId
        painterId ∈ s.painterIds ∧
          (painterId ∉ s'.painterIds ↔ gone) ∧
          (painterId ∉ s'.painterSurfmanDetailsMap ↔ gone) ∧
          s'.painters.filter (·.painterId ≠ painterId) =
            s.painters.filter (·.painterId ≠ painterId) ∧
          ∀ other, other ≠ painterId →
            s'.painterSurfmanDetailsMap.lookup other = s.painterSurfmanDetailsMap.lookup other := by
  have h : Registered laws (openWebviews fns ops) s := registered_of_run (registered_new world) hrun
  refine ⟨h.ids_nodup, h.contexts_nodup, h.details,
    fun painter hmem => registerRenderingContext_of_mem h.contexts_nodup hmem, ?_⟩
  intro webviewId s' hstep painterId gone
  obtain ⟨hmem, hgone, hothers, hentries⟩ := h.removeWebview_spec hstep
  have hopen : openWebviews fns (ops ++ [.removeWebview webviewId]) =
      openWebviews fns ops \ {webviewId} := by
    rw [openWebviews, List.foldl_append]
    rfl
  have hpainter : painterId ∉ s'.painterIds ↔ gone := by
    rw [hgone, ← hopen]
  exact ⟨hmem, hpainter, (not_congr ((h.removeWebview hstep).details painterId)).trans hpainter,
    hothers, hentries⟩

/-! ## A small program -/

/-- A painter that keeps its webviews, its pending frames, what it was notified of and the keys
that it has generated. -/
structure DemoPainter where
  webviews : List (ℕ × ℕ)
  pendingFrames : ℕ
  notified : List Bool
  keys : ℕ
  deriving DecidableEq

/-- Numbers for the ids; a webview is a painter with a number. -/
abbrev demoTypes : PaintTypes where
  PainterId := ℕ
  WebViewId := ℕ × ℕ
  PipelineId := ℕ
  DocumentId := ℕ
  RenderingContext := ℕ
  Connection := Unit
  Adapter := Unit
  WebView := ℕ × ℕ
  ViewportDetails := Unit
  AnimationState := Unit
  FrameTree := Unit
  PipelineExitSource := Unit
  LayoutVector := Unit
  ExternalScrollId := Unit
  ScrollDelta := Unit
  Epoch := Unit
  ViewportDescription := Unit
  DisplayListDescriptor := Unit
  DisplayListInfoReceiver := Unit
  DisplayListDataReceiver := Unit
  ImageUpdates := Unit
  CanvasEpoch := Unit
  ImageKey := ℕ × ℕ
  ImageKeySender := ℕ
  FontKey := ℕ × ℕ
  FontData := Unit
  FontIndex := Unit
  NativeFontHandle := Unit
  FontInstanceKey := ℕ × ℕ
  FontSize := Unit
  FontFlags := Unit
  FontVariations := Unit
  FontKeysSender := ℕ
  PipelinesAndEpochs := Unit
  LcpCandidate := Unit
  ReportsChan := ℕ
  PainterState := DemoPainter
  World := Unit
  decEqPainterId := inferInstanceAs (DecidableEq ℕ)
  decEqRenderingContext := inferInstanceAs (DecidableEq ℕ)

/-- The painters get the ids 0, 1, 2 and so on. -/
def demoFns : PaintFns demoTypes where
  painterIdOf := fun (webviewId : ℕ × ℕ) => webviewId.1
  webviewId := fun (webview : ℕ × ℕ) => webview
  newPainterId := fun n => (n : ℕ)
  newPainterId_injective := fun _ _ h => h
  newPainter := fun _ world => (⟨[], 0, [], 1⟩, world)
  connection := fun _ => some ()
  createAdapter := fun _ => some ()
  call := fun call state world =>
    match call with
    | .addWebview webview _ =>
        ({ state with webviews := webview :: state.webviews.filter (· ≠ webview) }, world)
    | .removeWebview webviewId =>
        ({ state with webviews := state.webviews.filter (· ≠ webviewId) }, world)
    | .generateFrameForScript => ({ state with pendingFrames := state.pendingFrames + 1 }, world)
    | _ => (state, world)
  isEmpty := fun state => state.webviews.isEmpty
  decrementPendingFrames := fun state => { state with pendingFrames := state.pendingFrames - 1 }
  handleNewWebrenderFrameReady := fun repaintNeeded state =>
    { state with notified := state.notified ++ [repaintNeeded] }
  reportMemory := fun _ => ⟨0, 0, 0⟩
  scrollTreesMemoryUsage := fun _ => 0
  generateImageKey := fun state => ((0, state.keys), { state with keys := state.keys + 1 })
  generateFontKey := fun state => ((0, state.keys), { state with keys := state.keys + 1 })
  generateFontInstanceKey := fun state => ((0, state.keys), { state with keys := state.keys + 1 })
  imageKey := fun painterId n => (painterId, n)
  fontKey := fun painterId n => (painterId, n)
  fontInstanceKey := fun painterId n => (painterId, n)
  imageKeyBatchSize := 10
  shutdownState := fun _ => .notShuttingDown

def demoWebviews : PainterWebviews demoFns where
  webviews := fun state => {w | w ∈ state.webviews}
  new := fun _ _ => by simp [demoFns]
  add := fun webview _ state _ => by
    ext w
    by_cases hw : w = webview <;> simp [demoFns, hw]
  remove := fun webviewId state _ => by
    ext w
    simp [demoFns]
  isEmpty := fun state => by
    simp [demoFns, Set.eq_empty_iff_forall_notMem, List.eq_nil_iff_forall_not_mem]

/-- Two contexts, one of which loses its only webview. -/
def demoCalls : List (RegistryOp demoTypes) :=
  [.registerRenderingContext 7, .registerRenderingContext 8, .addWebview (0, 0) (),
    .addWebview (1, 0) (), .removeWebview (0, 0), .registerRenderingContext 8]

theorem registry_kept_twoContexts :
    ∃ s, demoCalls.foldlM (registryStep demoFns) (new ()) = some s ∧ s.painterIds = [1] ∧
      ∀ painter ∈ s.painters, registerRenderingContext demoFns s painter.renderingContext =
        some (painter.painterId, s) := by
  have hids : (demoCalls.foldlM (registryStep demoFns) (new ())).map painterIds = some [1] := by
    decide
  obtain ⟨s, hrun, hs⟩ := Option.map_eq_some_iff.mp hids
  exact ⟨s, hrun, hs, (registry_kept demoFns demoWebviews () demoCalls s hrun).2.2.2.1⟩

/-- A painter without webviews goes when a webview that it never had is removed. -/
theorem registry_drops_unused :
    ¬ ∀ (ops : List (RegistryOp demoTypes)) (s s' : Paint demoTypes) (webviewId : ℕ × ℕ),
      ops.foldlM (registryStep demoFns) (new ()) = some s →
      Paint.removeWebview demoFns s webviewId = some s' →
        (demoFns.painterIdOf webviewId ∉ s'.painterIds ↔
          webviewId ∈ openWebviews demoFns ops ∧
            ∀ w ∈ openWebviews demoFns (ops ++ [.removeWebview webviewId]),
              demoFns.painterIdOf w ≠ demoFns.painterIdOf webviewId) := by
  intro h
  have hgone := h [.registerRenderingContext 7] _ _ (0, 0) rfl rfl
  exact (hgone.mp (by decide)).1

end Paint

end TorOnion
