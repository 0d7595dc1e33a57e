import TorOnion.Glyph.RoundTrip
import TorOnion.Library.Runs

/-!
# Glyphs over their lives: `graphics/glyph/main_gr.cpp`

A glyph gets its image, its path and its drawable when they are asked for, from a scaler context,
from a buffer or from another glyph.  An image has no length of its own: whoever reads it reads as
many bytes as the metrics say, so the metrics must not ask for more than was allocated.  They are
copied only into a glyph that has no image yet, and `zeroMetrics` asks for nothing
(`Covered`).

What a scaler context makes of a glyph is `SkScalerContext`; what it leaves of the memory of an
image is zero here.  A glyph that is empty or too large has no image to set, which the header says
in `setImageHasBeenCalled`; so `allocImage` never meets an empty glyph.  `fScalerContextBits` is
left out, and the assertion of `setMetricsAndImage` that one of its glyphs has no image, so that the
call where both have one is there, too.
-/

namespace TorOnion

/-- `SkScalerContext`. -/
structure SkScalerContext (Scalar Path Drawable : Type) where
  getImage : SkGlyph Scalar Path Drawable → List UInt8
  /-- The path, and whether it is a hairline and modified. -/
  getPath : SkGlyph Scalar Path Drawable → Option Path × Bool × Bool
  getDrawable : SkGlyph Scalar Path Drawable → Option Drawable

namespace SkGlyph

variable {Scalar Path Drawable : Type}

/-- `zeroMetrics`. -/
def zeroMetrics [Zero Scalar] (g : SkGlyph Scalar Path Drawable) : SkGlyph Scalar Path Drawable :=
  { g with fAdvanceX := 0, fAdvanceY := 0, fWidth := 0, fHeight := 0, fTop := 0, fLeft := 0 }

/-- The metrics of another glyph. -/
def withMetrics (g fromGlyph : SkGlyph Scalar Path Drawable) : SkGlyph Scalar Path Drawable :=
  { g with
    fAdvanceX := fromGlyph.fAdvanceX
    fAdvanceY := fromGlyph.fAdvanceY
    fWidth := fromGlyph.fWidth
    fHeight := fromGlyph.fHeight
    fTop := fromGlyph.fTop
    fLeft := fromGlyph.fLeft
    fMaskFormat := fromGlyph.fMaskFormat }

end SkGlyph

/-- A call on a glyph, which has an index. -/
inductive GlyphCall (β Path Drawable : Type)
  | setImageFrom (i : ℕ)
  | setImage (i : ℕ) (image : List UInt8)
  | setMetricsAndImage (i j : ℕ)
  | zeroMetrics (i : ℕ)
  | setPathFrom (i : ℕ)
  | setPath (i : ℕ) (path : Option Path) (hairline modified : Bool)
  | setDrawableFrom (i : ℕ)
  | setDrawable (i : ℕ) (drawable : Option Drawable)
  | addImageFromBuffer (i : ℕ) (buffer : β)
  | addPathFromBuffer (i : ℕ) (buffer : β)
  | addDrawableFromBuffer (i : ℕ) (buffer : β)

/-- The glyph that a call is about. -/
def GlyphCall.index {β Path Drawable : Type} : GlyphCall β Path Drawable → ℕ
  | setImageFrom i => i
  | setImage i _ => i
  | setMetricsAndImage i _ => i
  | zeroMetrics i => i
  | setPathFrom i => i
  | setPath i _ _ _ => i
  | setDrawableFrom i => i
  | setDrawable i _ => i
  | addImageFromBuffer i _ => i
  | addPathFromBuffer i _ => i
  | addDrawableFromBuffer i _ => i

namespace Skia

variable {β Scalar Path Picture Drawable : Type}

/-! ## The source -/

section Source

variable (sk : Skia β Scalar Path Picture Drawable)
  (scalerContext : SkScalerContext Scalar Path Drawable)

/-- `allocImage`: the size of the memory.  There is no result where its assertion fails. -/
def allocImage (g : SkGlyph Scalar Path Drawable) : Option ℕ :=
  if sk.isEmpty g.fWidth g.fHeight then none else some (sk.imageSize g)

/-- `setImage` from a scaler context. -/
def setImageFrom (g : SkGlyph Scalar Path Drawable) :
    Option (Bool × SkGlyph Scalar Path Drawable) :=
  if !sk.setImageHasBeenCalled g.fImage g.fWidth g.fHeight then do
    let size ← sk.allocImage g
    some (true, { g with fImage := some ((scalerContext.getImage g).takeD size 0) })
  else some (false, g)

/-- `setImage` from memory.  There is no result where it would read past the end. -/
def setImage (g : SkGlyph Scalar Path Drawable) (image : List UInt8) :
    Option (Bool × SkGlyph Scalar Path Drawable) :=
  if !sk.setImageHasBeenCalled g.fImage g.fWidth g.fHeight then do
    let size ← sk.allocImage g
    if size ≤ image.length then some (true, { g with fImage := some (image.take size) })
    else none
  else some (false, g)

/-- `setMetricsAndImage`. -/
def setMetricsAndImage (g fromGlyph : SkGlyph Scalar Path Drawable) :
    Option (ℕ × SkGlyph Scalar Path Drawable) :=
  if g.fImage.isNone then
    let g := g.withMetrics fromGlyph
    match fromGlyph.fImage with
    | some image => do
        let (set, g) ← sk.setImage g image
        some (if set then sk.imageSize g else 0, g)
    | none => some (0, g)
  else some (0, g)

/-- `setPath` from a scaler context. -/
def setPathFrom (g : SkGlyph Scalar Path Drawable) : Bool × SkGlyph Scalar Path Drawable :=
  let (path, hairline, modified) := scalerContext.getPath g
  sk.setPath g path hairline modified

/-- `setDrawable` from a scaler context. -/
def setDrawableFrom (g : SkGlyph Scalar Path Drawable) : Bool × SkGlyph Scalar Path Drawable :=
  setDrawable g (scalerContext.getDrawable g)

/-! ## Steps -/

variable [Zero Scalar]

/-- What a call makes of its glyph. -/
def callGlyph (glyphs : List (SkGlyph Scalar Path Drawable)) (g : SkGlyph Scalar Path Drawable) :
    GlyphCall β Path Drawable → Option (SkGlyph Scalar Path Drawable)
  | .setImageFrom _ => (sk.setImageFrom scalerContext g).map Prod.snd
  | .setImage _ image => (sk.setImage g image).map Prod.snd
  | .setMetricsAndImage _ j => do
      let fromGlyph ← glyphs[j]?
      (sk.setMetricsAndImage g fromGlyph).map Prod.snd
  | .zeroMetrics _ => some g.zeroMetrics
  | .setPathFrom _ => some (sk.setPathFrom scalerContext g).2
  | .setPath _ path hairline modified => some (sk.setPath g path hairline modified).2
  | .setDrawableFrom _ => some (setDrawableFrom scalerContext g).2
  | .setDrawable _ drawable => some (setDrawable g drawable).2
  | .addImageFromBuffer _ buffer => some (sk.addImageFromBuffer g buffer).2.1
  | .addPathFromBuffer _ buffer => some (sk.addPathFromBuffer g buffer).2.1
  | .addDrawableFromBuffer _ buffer => some (sk.addDrawableFromBuffer g buffer).2.1

/-- One call. -/
def glyphStep (glyphs : List (SkGlyph Scalar Path Drawable)) (call : GlyphCall β Path Drawable) :
    Option (List (SkGlyph Scalar Path Drawable)) := do
  let g ← glyphs[call.index]?
  let g ← sk.callGlyph scalerContext glyphs g call
  some (glyphs.set call.index g)

end Source

/-! ## What a call keeps -/

/-- The image has as many bytes as are read of it. -/
def Covered (sk : Skia β Scalar Path Picture Drawable) (g : SkGlyph Scalar Path Drawable) : Prop :=
  ∀ image ∈ g.fImage, sk.imageSize g ≤ image.length

/-- What has been set stays. -/
structure Settled (g g' : SkGlyph Scalar Path Drawable) : Prop where
  fID : g'.fID = g.fID
  image : g.fImage.isSome → g'.fImage.isSome
  pathData : g.fPathData.isSome → g'.fPathData = g.fPathData
  drawableData : g.fDrawableData.isSome → g'.fDrawableData = g.fDrawableData

/-- What is read from a buffer without an error has the size that was asked for. -/
def ReadsSize (sk : Skia β Scalar Path Picture Drawable) : Prop :=
  ∀ size buffer, sk.isValid (sk.readByteArray size buffer).2 = true →
    (sk.readByteArray size buffer).1.length = size

variable {sk : Skia β Scalar Path Picture Drawable}
  {scalerContext : SkScalerContext Scalar Path Drawable}
  {g g' fromGlyph : SkGlyph Scalar Path Drawable}
  {glyphs glyphs' : List (SkGlyph Scalar Path Drawable)} {call : GlyphCall β Path Drawable}

@[refl]
lemma Settled.refl (g : SkGlyph Scalar Path Drawable) : Settled g g :=
  ⟨rfl, id, fun _ => rfl, fun _ => rfl⟩

lemma Settled.trans {g₁ g₂ g₃ : SkGlyph Scalar Path Drawable} (h : Settled g₁ g₂)
    (h' : Settled g₂ g₃) : Settled g₁ g₃ where
  fID := h'.fID.trans h.fID
  image := fun hset => h'.image (h.image hset)
  pathData := fun hset => by
    have heq := h.pathData hset
    rw [h'.pathData (heq ▸ hset), heq]
  drawableData := fun hset => by
    have heq := h.drawableData hset
    rw [h'.drawableData (heq ▸ hset), heq]

/-- A glyph whose image can be set is not empty, and has no image. -/
lemma not_setImageHasBeenCalled
    (h : sk.setImageHasBeenCalled g.fImage g.fWidth g.fHeight = false) :
    g.fImage = none ∧ sk.isEmpty g.fWidth g.fHeight = false := by
  have hnot := (sk.setImageHasBeenCalled_iff g.fImage g.fWidth g.fHeight).not.mp
    (Bool.not_eq_true _ ▸ h)
  rw [not_or, not_or, Bool.not_eq_true, Bool.not_eq_true] at hnot
  exact ⟨Option.isSome_eq_false_iff.mp hnot.1 |> Option.isNone_iff_eq_none.mp, hnot.2.1⟩

/-- The assertion of `allocImage` holds where an image can be set. -/
lemma allocImage_eq (h : sk.setImageHasBeenCalled g.fImage g.fWidth g.fHeight = false) :
    sk.allocImage g = some (sk.imageSize g) := by
  rw [allocImage, (not_setImageHasBeenCalled h).2]
  rfl

lemma setImageFrom_spec (h : sk.Covered g) :
    ∃ set g', sk.setImageFrom scalerContext g = some (set, g') ∧ sk.Covered g' ∧
      Settled g g' := by
  rw [setImageFrom]
  cases hcalled : sk.setImageHasBeenCalled g.fImage g.fWidth g.fHeight with
  | true => exact ⟨false, g, rfl, h, .refl g⟩
  | false =>
      rw [allocImage_eq hcalled]
      refine ⟨true, _, rfl, fun image himage => ?_,
        ⟨rfl, fun _ => rfl, fun _ => rfl, fun _ => rfl⟩⟩
      obtain rfl := Option.some.inj himage
      rw [List.takeD_length]
      exact le_rfl

/-- Setting an image that is long enough. -/
lemma setImage_of_le {image : List UInt8} (hlen : sk.imageSize g ≤ image.length) :
    sk.setImage g image =
      if sk.setImageHasBeenCalled g.fImage g.fWidth g.fHeight then some (false, g)
      else some (true, { g with fImage := some (image.take (sk.imageSize g)) }) := by
  rw [setImage]
  cases hcalled : sk.setImageHasBeenCalled g.fImage g.fWidth g.fHeight with
  | true => rfl
  | false =>
      rw [allocImage_eq hcalled]
      exact if_pos hlen

lemma setImage_spec {image : List UInt8} {set : Bool} (h : sk.Covered g)
    (hset : sk.setImage g image = some (set, g')) : sk.Covered g' ∧ Settled g g' := by
  rw [setImage] at hset
  cases hcalled : sk.setImageHasBeenCalled g.fImage g.fWidth g.fHeight with
  | true =>
      rw [hcalled] at hset
      obtain ⟨-, rfl⟩ := Prod.ext_iff.mp (Option.some.inj hset)
      exact ⟨h, .refl g⟩
  | false =>
      rw [hcalled, Bool.not_false, if_pos rfl, allocImage_eq hcalled, Option.bind_eq_bind,
        Option.bind_some] at hset
      split at hset
      · next hlen =>
          obtain ⟨-, rfl⟩ := Prod.ext_iff.mp (Option.some.inj hset)
          refine ⟨fun bytes hbytes => ?_, ⟨rfl, fun _ => rfl, fun _ => rfl, fun _ => rfl⟩⟩
          obtain rfl := Option.some.inj hbytes
          rw [List.length_take]
          exact le_min le_rfl hlen
      · exact absurd hset nofun

/-- A glyph that is empty or too large has no bytes. -/
lemma imageSize_eq_zero (hnone : g.fImage = none)
    (h : sk.setImageHasBeenCalled g.fImage g.fWidth g.fHeight = true) : sk.imageSize g = 0 := by
  have hcalled := (sk.setImageHasBeenCalled_iff g.fImage g.fWidth g.fHeight).mp h
  rw [hnone, Option.isSome_none] at hcalled
  rw [imageSize, if_pos]
  rw [Bool.or_eq_true]
  exact hcalled.resolve_left Bool.false_ne_true

/-- **Copying reads no further than the other image goes.** -/
lemma setMetricsAndImage_spec (h : sk.Covered g) (hfrom : sk.Covered fromGlyph) :
    ∃ memory g', sk.setMetricsAndImage g fromGlyph = some (memory, g') ∧ sk.Covered g' ∧
      Settled g g' ∧ ∀ image, g.fImage = none → fromGlyph.fImage = some image →
        memory = sk.imageSize fromGlyph ∧ sk.imageBytes g' = sk.imageBytes fromGlyph ∧
          g' = { g.withMetrics fromGlyph with fImage := g'.fImage } := by
  rw [setMetricsAndImage]
  cases himage : g.fImage with
  | some image => exact ⟨0, g, rfl, h, .refl g, fun _ => nofun⟩
  | none =>
      have hsettled : ∀ image', Settled g { g.withMetrics fromGlyph with fImage := image' } :=
        fun image' => ⟨rfl, fun hset => absurd hset (by rw [himage]; exact Bool.false_ne_true),
          fun _ => rfl, fun _ => rfl⟩
      cases hother : fromGlyph.fImage with
      | none =>
          refine ⟨0, g.withMetrics fromGlyph, rfl, fun image hmem => ?_, ?_, fun _ _ => nofun⟩
          · have hnone : (g.withMetrics fromGlyph).fImage = none := himage
            exact absurd (hnone ▸ hmem) (Option.not_mem_none image)
          · exact hsettled g.fImage
      | some image =>
          have hlen : sk.imageSize (g.withMetrics fromGlyph) ≤ image.length := hfrom image hother
          have hnone : (g.withMetrics fromGlyph).fImage = none := himage
          have hset := setImage_of_le hlen
          cases hcalled : sk.setImageHasBeenCalled (g.withMetrics fromGlyph).fImage
              (g.withMetrics fromGlyph).fWidth (g.withMetrics fromGlyph).fHeight with
          | true =>
              -- the other glyph is empty or too large, so there is nothing to copy
              have hempty : sk.imageSize (g.withMetrics fromGlyph) = 0 :=
                imageSize_eq_zero hnone hcalled
              have hzero : sk.imageSize fromGlyph = 0 := hempty
              rw [hcalled] at hset
              refine ⟨0, g.withMetrics fromGlyph, ?_, fun image hmem => ?_, hsettled g.fImage, ?_⟩
              · show (sk.setImage (g.withMetrics fromGlyph) image).bind _ = _
                rw [hset]
                rfl
              · exact absurd (hnone ▸ hmem) (Option.not_mem_none image)
              · intro image' _ _
                refine ⟨hzero.symm, ?_, rfl⟩
                rw [imageBytes, imageBytes, hzero, List.take_zero]
                show List.take (sk.imageSize fromGlyph) _ = _
                rw [hzero, List.take_zero]
          | false =>
              rw [hcalled] at hset
              refine ⟨sk.imageSize fromGlyph, { g.withMetrics fromGlyph with
                fImage := some (image.take (sk.imageSize fromGlyph)) }, ?_, ?_, hsettled _, ?_⟩
              · show (sk.setImage (g.withMetrics fromGlyph) image).bind _ = _
                rw [hset]
                rfl
              · intro bytes hbytes
                obtain rfl := Option.some.inj hbytes
                rw [List.length_take]
                exact le_min le_rfl hlen
              · intro image' _ himage'
                obtain rfl := Option.some.inj himage'
                refine ⟨rfl, ?_, rfl⟩
                rw [imageBytes, imageBytes, hother]
                show (image.take (sk.imageSize fromGlyph)).take (sk.imageSize fromGlyph) = _
                rw [List.take_take, Nat.min_self]
                rfl

lemma imageSize_zeroMetrics [Zero Scalar] : sk.imageSize g.zeroMetrics = 0 := by
  have hrow : rowBytes g.zeroMetrics * g.zeroMetrics.fHeight.toNat = 0 := Nat.mul_zero _
  rw [imageSize]
  split
  · rfl
  · simp only [hrow, Nat.zero_mul, ite_self]

lemma setPath_settled (path : Option Path) (hairline modified : Bool) (h : sk.Covered g) :
    sk.Covered (sk.setPath g path hairline modified).2 ∧
      Settled g (sk.setPath g path hairline modified).2 := by
  rw [setPath]
  split
  · exact ⟨h, .refl g⟩
  · next hnot => exact ⟨h, ⟨rfl, id, fun hset => absurd hset hnot, fun _ => rfl⟩⟩

lemma setDrawable_settled (drawable : Option Drawable) (h : sk.Covered g) :
    sk.Covered (setDrawable g drawable).2 ∧ Settled g (setDrawable g drawable).2 := by
  rw [setDrawable]
  split
  · exact ⟨h, .refl g⟩
  · next hnot => exact ⟨h, ⟨rfl, id, fun _ => rfl, fun hset => absurd hset hnot⟩⟩

lemma addImageFromBuffer_spec (hread : sk.ReadsSize) (buffer : β) (h : sk.Covered g) :
    sk.Covered (sk.addImageFromBuffer g buffer).2.1 ∧
      Settled g (sk.addImageFromBuffer g buffer).2.1 := by
  rw [addImageFromBuffer]
  split
  · exact ⟨h, .refl g⟩
  · dsimp only
    split
    · next hvalid =>
        refine ⟨fun image himage => ?_, ⟨rfl, fun _ => rfl, fun _ => rfl, fun _ => rfl⟩⟩
        obtain rfl := Option.some.inj himage
        exact (hread _ buffer hvalid).ge
    · exact ⟨h, .refl g⟩

lemma addPathFromBuffer_spec (buffer : β) (h : sk.Covered g) :
    sk.Covered (sk.addPathFromBuffer g buffer).2.1 ∧
      Settled g (sk.addPathFromBuffer g buffer).2.1 := by
  rw [addPathFromBuffer]
  dsimp only
  split
  · exact ⟨h, .refl g⟩
  · split
    · split
      · exact ⟨h, .refl g⟩
      · exact setPath_settled _ _ _ h
    · exact setPath_settled _ _ _ h

lemma addDrawableFromBuffer_spec (buffer : β) (h : sk.Covered g) :
    sk.Covered (sk.addDrawableFromBuffer g buffer).2.1 ∧
      Settled g (sk.addDrawableFromBuffer g buffer).2.1 := by
  rw [addDrawableFromBuffer]
  dsimp only
  split
  · exact ⟨h, .refl g⟩
  · exact setDrawable_settled _ h

variable [Zero Scalar]

/-- The step lemma for one glyph. -/
lemma callGlyph_spec (hread : sk.ReadsSize) (hglyphs : ∀ g ∈ glyphs, sk.Covered g)
    (h : sk.Covered g) (hcall : sk.callGlyph scalerContext glyphs g call = some g') :
    sk.Covered g' ∧ Settled g g' := by
  cases call with
  | setImageFrom =>
      obtain ⟨set, g'', hset, hcovered, hsettled⟩ := setImageFrom_spec h
      obtain ⟨_, hset', rfl⟩ := Option.map_eq_some_iff.mp hcall
      obtain rfl := Option.some.inj (hset.symm.trans hset')
      exact ⟨hcovered, hsettled⟩
  | setImage _ image =>
      obtain ⟨⟨set, g''⟩, hset, rfl⟩ := Option.map_eq_some_iff.mp hcall
      exact setImage_spec h hset
  | setMetricsAndImage _ j =>
      obtain ⟨fromGlyph, hj, hrest⟩ := Option.bind_eq_some_iff.mp hcall
      obtain ⟨memory, g'', hset, hcovered, hsettled, -⟩ :=
        setMetricsAndImage_spec h (hglyphs fromGlyph (List.mem_of_getElem? hj))
      rw [hset] at hrest
      obtain rfl := Option.some.inj hrest
      exact ⟨hcovered, hsettled⟩
  | zeroMetrics =>
      obtain rfl := Option.some.inj hcall
      refine ⟨fun image _ => ?_, ⟨rfl, id, fun _ => rfl, fun _ => rfl⟩⟩
      rw [imageSize_zeroMetrics]
      exact Nat.zero_le _
  | setPathFrom =>
      obtain rfl := Option.some.inj hcall
      exact setPath_settled _ _ _ h
  | setPath _ path hairline modified =>
      obtain rfl := Option.some.inj hcall
      exact setPath_settled path hairline modified h
  | setDrawableFrom =>
      obtain rfl := Option.some.inj hcall
      exact setDrawable_settled _ h
  | setDrawable _ drawable =>
      obtain rfl := Option.some.inj hcall
      exact setDrawable_settled drawable h
  | addImageFromBuffer _ buffer =>
      obtain rfl := Option.some.inj hcall
      exact addImageFromBuffer_spec hread buffer h
  | addPathFromBuffer _ buffer =>
      obtain rfl := Option.some.inj hcall
      exact addPathFromBuffer_spec buffer h
  | addDrawableFromBuffer _ buffer =>
      obtain rfl := Option.some.inj hcall
      exact addDrawableFromBuffer_spec buffer h

/-- The step lemma. -/
lemma glyphStep_spec (hread : sk.ReadsSize) (hglyphs : ∀ g ∈ glyphs, sk.Covered g)
    (hstep : sk.glyphStep scalerContext glyphs call = some glyphs') :
    (∀ g ∈ glyphs', sk.Covered g) ∧
      ∀ (i : ℕ) g, glyphs[i]? = some g → ∃ g', glyphs'[i]? = some g' ∧ Settled g g' := by
  obtain ⟨g, hg, hrest⟩ := Option.bind_eq_some_iff.mp hstep
  obtain ⟨g', hcall, hset⟩ := Option.bind_eq_some_iff.mp hrest
  obtain rfl := Option.some.inj hset
  obtain ⟨hcovered, hsettled⟩ :=
    callGlyph_spec hread hglyphs (hglyphs g (List.mem_of_getElem? hg)) hcall
  refine ⟨fun other hother => ?_, fun i other hi => ?_⟩
  · rcases List.mem_or_eq_of_mem_set hother with hold | rfl
    · exact hglyphs other hold
    · exact hcovered
  · rcases eq_or_ne call.index i with rfl | hne
    · obtain ⟨hlt, -⟩ := List.getElem?_eq_some_iff.mp hg
      obtain rfl := Option.some.inj (hg.symm.trans hi)
      exact ⟨g', List.getElem?_set_self hlt, hsettled⟩
    · exact ⟨other, (List.getElem?_set_ne hne).trans hi, .refl other⟩

/-- The run lemma. -/
lemma glyphs_of_run {calls : List (GlyphCall β Path Drawable)} (hread : sk.ReadsSize)
    (hglyphs : ∀ g ∈ glyphs, sk.Covered g)
    (hrun : calls.foldlM (sk.glyphStep scalerContext) glyphs = some glyphs') :
    (∀ g ∈ glyphs', sk.Covered g) ∧
      ∀ (i : ℕ) g, glyphs[i]? = some g → ∃ g', glyphs'[i]? = some g' ∧ Settled g g' := by
  induction calls generalizing glyphs with
  | nil =>
      obtain rfl := Option.some.inj hrun
      exact ⟨hglyphs, fun i g hi => ⟨g, hi, .refl g⟩⟩
  | cons call calls ih =>
      rw [List.foldlM_cons] at hrun
      obtain ⟨mid, hstep, hrest⟩ := Option.bind_eq_some_iff.mp hrun
      obtain ⟨hmid, hfirst⟩ := glyphStep_spec hread hglyphs hstep
      obtain ⟨hend, hlater⟩ := ih hmid hrest
      refine ⟨hend, fun i g hi => ?_⟩
      obtain ⟨g', hi', hsettled⟩ := hfirst i g hi
      obtain ⟨g'', hi'', hsettled'⟩ := hlater i g' hi'
      exact ⟨g'', hi'', hsettled.trans hsettled'⟩

/-- **Images are never read past their end.**  Glyphs without images are given images, paths,
drawables and metrics by any calls.  Then every image that there is has all the bytes that
`flattenImage` and `setMetricsAndImage` read of it, and copying it to a glyph without an image gives
this glyph the same metrics and the same bytes and returns their number.  A scaler context is never
asked for the image of an empty glyph.  Paths and drawables that have been set once stay as they
are, whatever calls follow. -/
theorem images_in_bounds {calls : List (GlyphCall β Path Drawable)} (hread : sk.ReadsSize)
    (hnew : ∀ g ∈ glyphs, g.fImage = none)
    (hrun : calls.foldlM (sk.glyphStep scalerContext) glyphs = some glyphs') :
    (∀ g ∈ glyphs', g.fImage.isSome → (sk.imageBytes g).length = sk.imageSize g) ∧
      (∀ g ∈ glyphs', ∀ fromGlyph ∈ glyphs', ∃ memory g',
        sk.setMetricsAndImage g fromGlyph = some (memory, g') ∧
          (g.fImage = none → fromGlyph.fImage.isSome →
            memory = sk.imageSize fromGlyph ∧ sk.imageBytes g' = sk.imageBytes fromGlyph ∧
              g' = { g.withMetrics fromGlyph with fImage := g'.fImage })) ∧
      (∀ g ∈ glyphs', (sk.setImageFrom scalerContext g).isSome) ∧
      ∀ (later : List (GlyphCall β Path Drawable)) glyphs'',
        later.foldlM (sk.glyphStep scalerContext) glyphs' = some glyphs'' →
        ∀ (i : ℕ) g, glyphs'[i]? = some g → ∃ g', glyphs''[i]? = some g' ∧ Settled g g' := by
  have hcovered : ∀ g ∈ glyphs, sk.Covered g := fun g hg image himage => by
    rw [hnew g hg] at himage
    exact absurd himage (Option.not_mem_none image)
  obtain ⟨hend, -⟩ := glyphs_of_run hread hcovered hrun
  refine ⟨fun g hg hset => ?_, fun g hg fromGlyph hfrom => ?_, fun g hg => ?_,
    fun later glyphs'' hlater => (glyphs_of_run hread hend hlater).2⟩
  · obtain ⟨image, himage⟩ := Option.isSome_iff_exists.mp hset
    have hlen := hend g hg image himage
    rw [imageBytes, himage, Option.getD_some, List.length_take, min_eq_left hlen]
  · obtain ⟨memory, g', hset, -, -, hcopy⟩ :=
      setMetricsAndImage_spec (hend g hg) (hend fromGlyph hfrom)
    refine ⟨memory, g', hset, fun hnone hsome => ?_⟩
    obtain ⟨image, himage⟩ := Option.isSome_iff_exists.mp hsome
    exact hcopy image hnone himage
  · obtain ⟨set, g', hset, -⟩ := @setImageFrom_spec _ _ _ _ _ sk scalerContext g (hend g hg)
    exact Option.isSome_of_mem hset

lemma readsSize_wireSkia : wireSkia.ReadsSize := by
  intro size buffer hvalid
  show (Wire.readArrayOf size buffer).1.length = size
  have hvalid' : (Wire.readArrayOf size buffer).2.2 = true := hvalid
  rw [Wire.readArrayOf] at hvalid' ⊢
  dsimp only at hvalid' ⊢
  split at hvalid'
  · next hlen =>
      rw [if_pos hlen]
      exact hlen
  · exact absurd hvalid' Bool.false_ne_true

/-- A scaler context whose images are too long, and that has no paths and drawables. -/
def demoScaler : SkScalerContext UInt32 UInt32 (List UInt8) where
  getImage _ := List.replicate 9 1
  getPath _ := (none, false, false)
  getDrawable _ := none

/-- The first of two glyphs gets an image, the second one copies it, and the first one shrinks. -/
theorem images_in_bounds_copied :
    ∃ glyphs', [.setImageFrom 0, .setMetricsAndImage 1 0, .zeroMetrics 0].foldlM
        (wireSkia.glyphStep demoScaler)
        [{ demoGlyph with fImage := none }, { demoGlyph with fImage := none, fWidth := 9 }] =
          some glyphs' ∧
      ∀ g ∈ glyphs', (wireSkia.imageBytes g).length = wireSkia.imageSize g := by
  have hrun : [.setImageFrom 0, .setMetricsAndImage 1 0, .zeroMetrics 0].foldlM
      (wireSkia.glyphStep demoScaler)
      [{ demoGlyph with fImage := none }, { demoGlyph with fImage := none, fWidth := 9 }] =
        some _ := rfl
  have hbounds := images_in_bounds readsSize_wireSkia (by decide) hrun
  refine ⟨_, hrun, fun g hg => hbounds.1 g hg ?_⟩
  revert g
  decide +kernel

end Skia

end TorOnion
