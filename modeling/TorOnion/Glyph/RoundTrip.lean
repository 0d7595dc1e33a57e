import TorOnion.Glyph.Serialize

/-!
# A glyph is read back as it was written

Each section is read back in front of anything, by a glyph with the metrics of the one that was
written: the two halves of a word are the values packed into it (`high_pack`, `low_pack`), the
condition under which a section is skipped depends on the metrics alone, and the image of a glyph
that fits in the atlas is small enough for a byte array (`imageSize_lt`).  The sections together
are `readGlyph_flatten`.
-/

namespace TorOnion

namespace Skia

variable {β Scalar Path Picture Drawable : Type} (sk : Skia β Scalar Path Picture Drawable)

/-! ## What is to be read back -/

/-- The image, the path and the drawable have been set: the memory of an image that is neither empty
nor too large has its size, and a path or a drawable is one that was installed. -/
structure IsSet (g : SkGlyph Scalar Path Drawable) : Prop where
  image : sk.isEmpty g.fWidth g.fHeight = true ∨ sk.imageTooLarge g.fWidth g.fHeight = true ∨
    ∃ bytes, g.fImage = some bytes ∧ bytes.length = sk.imageSize g
  path : ∃ path hairline modified, g.fPathData = some (sk.installPath path hairline modified)
  drawable : ∃ drawable, g.fDrawableData = some (installDrawable drawable)

/-- The serialized picture of a drawable. -/
def pictureData (drawable : Drawable) : List UInt8 :=
  sk.serialize (sk.makePictureSnapshot drawable)

/-- The glyph that is read back. -/
structure ReadsBack (g g' : SkGlyph Scalar Path Drawable) : Prop where
  fID : g'.fID = g.fID
  fAdvanceX : g'.fAdvanceX = g.fAdvanceX
  fAdvanceY : g'.fAdvanceY = g.fAdvanceY
  fWidth : g'.fWidth = g.fWidth
  fHeight : g'.fHeight = g.fHeight
  fLeft : g'.fLeft = g.fLeft
  fTop : g'.fTop = g.fTop
  fMaskFormat : g'.fMaskFormat = g.fMaskFormat
  image : g'.fImage = if !sk.isEmpty g.fWidth g.fHeight && sk.fitsInAtlas g then
    some (sk.imageBytes g) else none
  path : g'.path = g.path
  pathIsHairline : g'.pathIsHairline = g.pathIsHairline
  pathIsModified : g'.pathIsModified = g.pathIsModified
  drawable_iff : g'.drawable.isSome = true ↔ sk.isEmpty g.fWidth g.fHeight = false ∧
    ∃ drawable, g.drawable = some drawable ∧ sk.pictureData drawable ≠ [] ∧
      (sk.pictureData drawable).length < 2 ^ 32
  drawable : ∀ drawable', g'.drawable = some drawable' → ∃ drawable, g.drawable = some drawable ∧
    drawable' = sk.pictureBacked (sk.makePictureSnapshot drawable)

end Skia

/-! ## Packed words -/

lemma toNat_pack (a b : UInt16) :
    (a.toUInt32 <<< 16 ||| b.toUInt32).toNat = a.toNat * 2 ^ 16 + b.toNat := by
  have ha := a.toNat_lt
  have hb := b.toNat_lt
  have hor : a.toNat * 2 ^ 16 ||| b.toNat = a.toNat * 2 ^ 16 + b.toNat := by
    rw [← Nat.shiftLeft_eq, Nat.shiftLeft_add_eq_or_of_lt hb]
  rw [UInt32.toNat_or, UInt32.toNat_shiftLeft, UInt16.toNat_toUInt32, UInt16.toNat_toUInt32,
    Nat.shiftLeft_eq]
  simp only [UInt32.toNat_ofNat, Nat.reducePow, Nat.reduceMod] at hor ⊢
  rw [Nat.mod_eq_of_lt (by omega), hor]

lemma high_pack (a b : UInt16) :
    ((a.toUInt32 <<< 16 ||| b.toUInt32) >>> 16).toUInt16 = a := by
  have ha := a.toNat_lt
  have hb := b.toNat_lt
  refine UInt16.toNat_inj.mp ?_
  rw [UInt32.toNat_toUInt16, UInt32.toNat_shiftRight, toNat_pack, Nat.shiftRight_eq_div_pow]
  simp only [UInt32.toNat_ofNat, Nat.reducePow, Nat.reduceMod]
  omega

lemma low_pack (a b : UInt16) :
    ((a.toUInt32 <<< 16 ||| b.toUInt32) &&& 0xffff).toUInt16 = b := by
  have hb := b.toNat_lt
  refine UInt16.toNat_inj.mp ?_
  have hmask : (0xffff : UInt32).toNat = 2 ^ 16 - 1 := rfl
  rw [UInt32.toNat_toUInt16, UInt32.toNat_and, toNat_pack, hmask, Nat.and_two_pow_sub_one_eq_mod]
  omega

namespace Skia

variable {β Scalar Path Picture Drawable : Type} {sk : Skia β Scalar Path Picture Drawable}
  {g g' : SkGlyph Scalar Path Drawable}

/-! ## Metrics -/

/-- A glyph with the metrics and nothing else. -/
def bare (g : SkGlyph Scalar Path Drawable) : SkGlyph Scalar Path Drawable :=
  { g with fImage := none, fPathData := none, fDrawableData := none }

lemma makeFromBuffer_flattenMetrics (g : SkGlyph Scalar Path Drawable) (rest : List UInt8) :
    sk.makeFromBuffer (sk.ofBytes (sk.flattenMetrics g ++ rest)) =
      (some (bare g), sk.ofBytes rest) := by
  simp only [makeFromBuffer, flattenMetrics, List.append_assoc, sk.uint.read_write,
    sk.point.read_write, sk.formatOf_formatCode, Option.isSome_some, sk.validate_true,
    sk.isValid_ofBytes, high_pack, low_pack, Int16.toInt16_toUInt16, bare, Bool.not_true,
    Bool.false_eq_true, if_false]

/-! ## Image -/

lemma formatRowbytes_le (width : ℕ) (format : MaskFormat) :
    formatRowbytes width format ≤ width * 4 := by
  unfold formatRowbytes
  split
  · rw [bitsToBytes, Nat.shiftRight_eq_div_pow]
    omega
  · refine Nat.mul_le_mul_left width ?_
    cases format <;> decide

/-- An image that fits in the atlas fits in a byte array. -/
lemma imageSize_lt (hfits : sk.fitsInAtlas g = true) : sk.imageSize g < 2 ^ 32 := by
  obtain ⟨hwidth, hheight⟩ := sk.le_maxDimension g.fWidth g.fHeight
  have hside := sk.sideTooBigForAtlas_le
  have hmax : sk.maxDimension g.fWidth g.fHeight ≤ sk.sideTooBigForAtlas := by
    simpa [fitsInAtlas] using hfits
  have hrow : rowBytes g ≤ 2 ^ 14 * 4 :=
    (formatRowbytes_le _ _).trans (Nat.mul_le_mul_right 4 (hwidth.trans (hmax.trans hside)))
  have hsize : rowBytes g * g.fHeight.toNat ≤ 2 ^ 14 * 4 * 2 ^ 14 :=
    Nat.mul_le_mul hrow (hheight.trans (hmax.trans hside))
  unfold imageSize
  split
  · omega
  · dsimp only
    split <;> omega

/-- The image that is written has its size. -/
lemma length_imageBytes (hset : sk.IsSet g) (hempty : sk.isEmpty g.fWidth g.fHeight = false) :
    (sk.imageBytes g).length = sk.imageSize g := by
  rcases hset.image with h | htoo | ⟨bytes, himage, hlen⟩
  · rw [h] at hempty
    cases hempty
  · simp [imageBytes, imageSize, htoo]
  · simp [imageBytes, himage, hlen]

lemma addImageFromBuffer_flattenImage (hset : sk.IsSet g) (rest : List UInt8) :
    (sk.addImageFromBuffer (bare g) (sk.ofBytes (sk.flattenImage g ++ rest))).2 =
      ({ bare g with
          fImage := if !sk.isEmpty g.fWidth g.fHeight && sk.fitsInAtlas g then
            some (sk.imageBytes g) else none }, sk.ofBytes rest) := by
  have hfits : sk.fitsInAtlas (bare g) = sk.fitsInAtlas g := rfl
  have hsize : sk.imageSize (bare g) = sk.imageSize g := rfl
  have hempty : sk.isEmpty (bare g).fWidth (bare g).fHeight = sk.isEmpty g.fWidth g.fHeight := rfl
  rw [addImageFromBuffer, flattenImage, hfits, hsize, hempty]
  by_cases hsection : (!sk.isEmpty g.fWidth g.fHeight && sk.fitsInAtlas g) = true
  · obtain ⟨hnot, hatlas⟩ := Bool.and_eq_true_iff.mp hsection
    have hnot' : sk.isEmpty g.fWidth g.fHeight = false := by simpa using hnot
    have hlen := length_imageBytes hset hnot'
    have hread := sk.readByteArray_writeByteArray (sk.imageBytes g) rest
      (hlen.symm ▸ imageSize_lt hatlas)
    rw [hlen] at hread
    simp [hread, sk.isValid_ofBytes, hnot', hatlas]
  · have hskip : (sk.isEmpty g.fWidth g.fHeight || !sk.fitsInAtlas g) = true := by
      simpa [imp_iff_not_or] using hsection
    rw [if_pos hskip, if_neg hsection, if_neg hsection, List.nil_append]
    rfl

/-! ## Path -/

lemma path_installPath (path : Option Path) (hairline modified : Bool) :
    { g with fPathData := some (sk.installPath path hairline modified) }.path = path := by
  cases path with
  | none => simp [SkGlyph.path, installPath, sk.fHasPath_noPath]
  | some path => rfl

lemma addPathFromBuffer_flattenPath (hset : sk.IsSet g) (hnone : g'.fPathData = none)
    (rest : List UInt8) :
    (sk.addPathFromBuffer g' (sk.ofBytes (sk.flattenPath g ++ rest))).2 =
      ({ g' with fPathData := g.fPathData }, sk.ofBytes rest) := by
  obtain ⟨path, hairline, modified, hdata⟩ := hset.path
  have hpath : g.path = path := by
    rw [← @path_installPath _ _ _ _ _ sk g path hairline modified, ← hdata]
  unfold addPathFromBuffer flattenPath
  rw [hpath]
  cases path with
  | none =>
      simp [sk.bool.read_write, sk.isValid_ofBytes, setPath, hnone, hdata, installPath]
  | some path =>
      simp [sk.bool.read_write, sk.isValid_ofBytes, setPath, hnone, hdata, installPath,
        sk.readPath_writePath, SkGlyph.pathIsHairline, SkGlyph.pathIsModified]

/-! ## Drawable -/

/-- The drawable that is read back: nothing that is empty or whose picture cannot be written. -/
def readDrawable (sk : Skia β Scalar Path Picture Drawable) (g : SkGlyph Scalar Path Drawable) :
    Option Drawable :=
  if sk.isEmpty g.fWidth g.fHeight then none
  else
    g.drawable.bind fun drawable =>
      if sk.pictureData drawable ≠ [] ∧ (sk.pictureData drawable).length < 2 ^ 32 then
        some (sk.pictureBacked (sk.makePictureSnapshot drawable))
      else none

lemma makeDrawableFromBuffer_nil (rest : List UInt8) :
    sk.makeDrawableFromBuffer (sk.ofBytes (sk.writeByteArray [] ++ rest)) =
      (none, sk.ofBytes rest) := by
  simp [makeDrawableFromBuffer, sk.readByteArrayAsData_writeByteArray, sk.isValid_ofBytes]

lemma makeDrawableFromBuffer_flattenDrawableOf (drawable : Drawable) (rest : List UInt8) :
    sk.makeDrawableFromBuffer (sk.ofBytes (sk.flattenDrawableOf (some drawable) ++ rest)) =
      (if sk.pictureData drawable ≠ [] ∧ (sk.pictureData drawable).length < 2 ^ 32 then
        some (sk.pictureBacked (sk.makePictureSnapshot drawable))
      else none, sk.ofBytes rest) := by
  have hpicture : sk.makeFromData (sk.pictureData drawable) =
      some (sk.makePictureSnapshot drawable) := sk.makeFromData_serialize _
  rw [flattenDrawableOf]
  change sk.makeDrawableFromBuffer (sk.ofBytes ((if ¬ (sk.pictureData drawable).length < 2 ^ 32 ∨
    sk.pictureData drawable = [] then sk.writeByteArray []
      else sk.writeByteArray (sk.pictureData drawable)) ++ rest)) = _
  by_cases hwritten :
      sk.pictureData drawable ≠ [] ∧ (sk.pictureData drawable).length < 2 ^ 32
  · obtain ⟨hne, hlt⟩ := hwritten
    rw [if_neg (by tauto), if_pos ⟨hne, hlt⟩, makeDrawableFromBuffer,
      sk.readByteArrayAsData_writeByteArray _ _ hlt]
    simp [sk.isValid_ofBytes, sk.validate_true, hne, hpicture]
  · rw [if_pos (by tauto), if_neg hwritten, makeDrawableFromBuffer_nil]

lemma drawable_installDrawable (g : SkGlyph Scalar Path Drawable) (drawable : Option Drawable) :
    { g with fDrawableData := some (installDrawable drawable) }.drawable = drawable := by
  cases drawable <;> rfl

lemma addDrawableFromBuffer_flattenDrawable (hnone : g'.fDrawableData = none)
    (rest : List UInt8) :
    (sk.addDrawableFromBuffer g' (sk.ofBytes (sk.flattenDrawable g ++ rest))).2 =
      ({ g' with fDrawableData := some (installDrawable (readDrawable sk g)) },
        sk.ofBytes rest) := by
  have hread : sk.makeDrawableFromBuffer (sk.ofBytes (sk.flattenDrawable g ++ rest)) =
      (readDrawable sk g, sk.ofBytes rest) := by
    rw [flattenDrawable, readDrawable]
    cases hempty : sk.isEmpty g.fWidth g.fHeight with
    | true => simpa [flattenDrawableOf] using makeDrawableFromBuffer_nil rest
    | false =>
        cases hdrawable : g.drawable with
        | none => simpa [flattenDrawableOf] using makeDrawableFromBuffer_nil rest
        | some drawable => simpa using makeDrawableFromBuffer_flattenDrawableOf drawable rest
  simp [addDrawableFromBuffer, hread, sk.isValid_ofBytes, setDrawable, hnone]

lemma readDrawable_isSome_iff : (readDrawable sk g).isSome = true ↔
    sk.isEmpty g.fWidth g.fHeight = false ∧ ∃ drawable, g.drawable = some drawable ∧
      sk.pictureData drawable ≠ [] ∧ (sk.pictureData drawable).length < 2 ^ 32 := by
  unfold readDrawable
  cases sk.isEmpty g.fWidth g.fHeight <;> cases g.drawable <;> simp

lemma readDrawable_eq_some {drawable' : Drawable} (h : readDrawable sk g = some drawable') :
    ∃ drawable, g.drawable = some drawable ∧
      drawable' = sk.pictureBacked (sk.makePictureSnapshot drawable) := by
  unfold readDrawable at h
  split at h
  · cases h
  · obtain ⟨drawable, hdrawable, hread⟩ := Option.bind_eq_some_iff.mp h
    split at hread
    · exact ⟨drawable, hdrawable, (Option.some.inj hread).symm⟩
    · cases hread

/-! ## All sections -/

/-- The glyph that the four sections are read into. -/
def readBack (sk : Skia β Scalar Path Picture Drawable) (g : SkGlyph Scalar Path Drawable) :
    SkGlyph Scalar Path Drawable :=
  { g with
    fImage := if !sk.isEmpty g.fWidth g.fHeight && sk.fitsInAtlas g then
      some (sk.imageBytes g) else none
    fDrawableData := some (installDrawable (readDrawable sk g)) }

lemma readGlyph_flatten_eq (hset : sk.IsSet g) (rest : List UInt8) :
    sk.readGlyph (sk.ofBytes (sk.flatten g ++ rest)) =
      (some (readBack sk g), sk.ofBytes rest) := by
  have hmetrics := @makeFromBuffer_flattenMetrics _ _ _ _ _ sk g
    (sk.flattenImage g ++ (sk.flattenPath g ++ (sk.flattenDrawable g ++ rest)))
  have himage := addImageFromBuffer_flattenImage hset
    (sk.flattenPath g ++ (sk.flattenDrawable g ++ rest))
  set withImage : SkGlyph Scalar Path Drawable := { bare g with
    fImage := if !sk.isEmpty g.fWidth g.fHeight && sk.fitsInAtlas g then
      some (sk.imageBytes g) else none }
  have hpath := @addPathFromBuffer_flattenPath _ _ _ _ _ sk g withImage hset rfl
    (sk.flattenDrawable g ++ rest)
  have hdrawable := @addDrawableFromBuffer_flattenDrawable _ _ _ _ _ sk g
    { withImage with fPathData := g.fPathData } rfl rest
  simp only [readGlyph, flatten, List.append_assoc, hmetrics, himage, hpath, hdrawable]
  rfl

lemma readsBack_readBack (g : SkGlyph Scalar Path Drawable) : sk.ReadsBack g (readBack sk g) := by
  have hdrawable : (readBack sk g).drawable = readDrawable sk g :=
    drawable_installDrawable g (readDrawable sk g)
  constructor
  case drawable_iff =>
    rw [hdrawable]
    exact readDrawable_isSome_iff
  case drawable =>
    intro drawable' h
    rw [hdrawable] at h
    exact readDrawable_eq_some h
  all_goals rfl

/-- **A glyph is read back as it was written**, and nothing else is read. -/
theorem readGlyph_flatten (hset : sk.IsSet g) (rest : List UInt8) :
    ∃ g', sk.readGlyph (sk.ofBytes (sk.flatten g ++ rest)) = (some g', sk.ofBytes rest) ∧
      sk.ReadsBack g g' :=
  ⟨readBack sk g, readGlyph_flatten_eq hset rest, readsBack_readBack g⟩

end Skia

/-! ## A glyph in the words of a flagged buffer -/

section Demo

/-- Buffers of words, where a path is a word and a drawable is its picture. -/
def wireSkia : Skia (List UInt8 × Bool) UInt32 UInt32 (List UInt8) (List UInt8) where
  toBuffer := Wire.flagged
  uint := Wire.word
  point := Wire.word.pair Wire.word
  bool := Wire.bool
  writePath := Wire.word.write
  readPath buffer :=
    let (path, buffer) := Wire.word.read buffer
    (if buffer.2 then some path else none, buffer)
  readPath_writePath path rest := by
    rw [Wire.word.read_write]
    rfl
  writeByteArray := Wire.writeArray
  readByteArray := Wire.readArrayOf
  readByteArrayAsData := Wire.readArray
  readByteArray_writeByteArray _ rest h := Wire.readArrayOf_writeArray h rest
  readByteArrayAsData_writeByteArray _ rest h := Wire.readArray_writeArray h rest
  makePictureSnapshot := id
  serialize := id
  makeFromData := some
  makeFromData_serialize _ := rfl
  pictureBacked := id
  drawableBytesUsed := List.length
  isEmpty width height := decide (width = 0 ∨ height = 0)
  imageTooLarge width _ := decide (2 ^ 13 ≤ width.toNat)
  setImageHasBeenCalled image width height :=
    image.isSome || decide (width = 0 ∨ height = 0) || decide (2 ^ 13 ≤ width.toNat)
  setImageHasBeenCalled_iff image width height := by
    rw [Bool.or_eq_true, Bool.or_eq_true, or_assoc]
  maxDimension width height := max width.toNat height.toNat
  le_maxDimension _ _ := ⟨le_max_left _ _, le_max_right _ _⟩
  sideTooBigForAtlas := 256
  sideTooBigForAtlas_le := by decide
  formatCode
    | .bw => 0
    | .a8 => 1
    | .threeD => 2
    | .argb32 => 3
    | .lcd16 => 4
    | .sdf => 5
  formatOf code := [.bw, .a8, .threeD, .argb32, .lcd16, .sdf][code.toNat]?
  formatOf_formatCode format := by cases format <;> rfl
  noPath := ⟨0, false, false, false⟩
  fHasPath_noPath := rfl
  pathBytesUsed _ := 4

/-- Three pixels by two, above and to the left of the origin, with a path and a drawable. -/
def demoGlyph : SkGlyph UInt32 UInt32 (List UInt8) where
  fID := 0x10041
  fAdvanceX := 3
  fAdvanceY := 0
  fWidth := 3
  fHeight := 2
  fLeft := -1
  fTop := -2
  fMaskFormat := .a8
  fImage := some [1, 2, 3, 4, 5, 6]
  fPathData := some ⟨9, true, true, false⟩
  fDrawableData := some ⟨some [7, 8], true⟩

/-- The glyph in front of one more byte. -/
theorem readGlyph_flatten_demoGlyph :
    ∃ g', wireSkia.readGlyph (wireSkia.ofBytes (wireSkia.flatten demoGlyph ++ [255])) =
      (some g', wireSkia.ofBytes [255]) ∧ wireSkia.ReadsBack demoGlyph g' :=
  Skia.readGlyph_flatten
    ⟨Or.inr (Or.inr ⟨[1, 2, 3, 4, 5, 6], rfl, by decide⟩), ⟨some 9, true, false, rfl⟩,
      ⟨some [7, 8], rfl⟩⟩ [255]

end Demo

end TorOnion
